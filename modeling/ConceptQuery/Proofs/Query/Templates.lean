import Mathlib
import ConceptQuery.Query.Provider

/-!
# Filling templates

The template provider fills a template with two replacements in a row: every `{field}` by the
field name, then every `{text}` of the result by the term's text (`Provider.fill`). Each
replacement is one left-to-right pass that never reads again what it has put in
(`replaceText_toList`), so a `{field}` or a `{text}` inside the term's text is kept. The second
pass does read what the first put in: a field name holding `{text}` has it filled
(`Provider.expand_fills_field_name`), and a `{field}` standing inside `{te…xt}` joins the halves
around it into a `{text}` that is filled too.

Filled in a single pass that knows both placeholders (`Template.render`), a template gives the
same text whenever the field name holds no `{` and every `{` of the template opens a placeholder
(`Template.substitute_text_substitute_field`). On such inputs an expansion fails exactly when
the rendered term is empty and otherwise gives the leaf of the rendered field and the rendered
term; on every input it does so with the two passes (`Provider.expand_template`).
-/

namespace ConceptQuery

namespace Template

/-- A placeholder: its pattern, never empty (a first character and the rest), and the
characters that stand for it. -/
structure Placeholder where
  /-- The first character of the placeholder. -/
  first : Char
  /-- The characters after it. -/
  rest : List Char
  /-- What replaces the placeholder. -/
  value : List Char

/-- The characters a placeholder stands in for. -/
def Placeholder.pattern (ph : Placeholder) : List Char := ph.first :: ph.rest

/-- Fill placeholders in one pass from left to right. Where a pattern starts, the first
placeholder of the list with that pattern gives its value and the pass goes on after the
pattern; any other character is kept. A value is never read again. -/
def substitute (phs : List Placeholder) : List Char → List Char
  | [] => []
  | c :: s =>
    match phs.find? fun ph => ph.pattern.isPrefixOf (c :: s) with
    | some ph => ph.value ++ substitute phs (s.drop ph.rest.length)
    | none => c :: substitute phs s
termination_by s => s.length
decreasing_by
  all_goals simp only [List.length_drop, List.length_cons]
  all_goals omega

section Substitute

variable {phs : List Placeholder} {ph : Placeholder} {c : Char} {s : List Char}

/-- Substituting in no characters gives none. -/
@[simp] theorem substitute_nil (phs : List Placeholder) : substitute phs [] = [] := by
  rw [substitute]

/-- At the first placeholder that starts here, its value replaces it. -/
theorem substitute_cons_of_find_some
    (h : (phs.find? fun ph => ph.pattern.isPrefixOf (c :: s)) = some ph) :
    substitute phs (c :: s) = ph.value ++ substitute phs (s.drop ph.rest.length) := by
  rw [substitute, h]

/-- Where no placeholder starts, the character is kept. -/
theorem substitute_cons_of_find_none
    (h : (phs.find? fun ph => ph.pattern.isPrefixOf (c :: s)) = none) :
    substitute phs (c :: s) = c :: substitute phs s := by
  rw [substitute, h]

/-! ### One placeholder -/

/-- With one placeholder, its value replaces it where it starts. -/
theorem substitute_single_of_isPrefixOf (h : ph.pattern.isPrefixOf (c :: s) = true) :
    substitute [ph] (c :: s) = ph.value ++ substitute [ph] (s.drop ph.rest.length) :=
  substitute_cons_of_find_some (by simp [h])

/-- With one placeholder, a character where it does not start is kept. -/
theorem substitute_single_of_not_isPrefixOf (h : ph.pattern.isPrefixOf (c :: s) = false) :
    substitute [ph] (c :: s) = c :: substitute [ph] s :=
  substitute_cons_of_find_none (by simp [h])

/-- A pattern cannot start at a character other than its first. -/
theorem isPrefixOf_pattern_of_ne (hc : c ≠ ph.first) :
    ph.pattern.isPrefixOf (c :: s) = false := by
  simp [Placeholder.pattern, List.isPrefixOf, Ne.symm hc]

/-- The pass copies text that holds no first character of the pattern. -/
theorem substitute_single_append {u : List Char} (hu : ph.first ∉ u) (v : List Char) :
    substitute [ph] (u ++ v) = u ++ substitute [ph] v := by
  induction u with
  | nil => rfl
  | cons c u ih =>
    have hc : c ≠ ph.first := fun h => hu (h ▸ List.mem_cons_self)
    rw [List.cons_append, substitute_single_of_not_isPrefixOf (isPrefixOf_pattern_of_ne hc),
      ih (fun h => hu (List.mem_cons_of_mem c h)), List.cons_append]

/-- The pass replaces a pattern at the start and goes on after it. -/
theorem substitute_single_pattern_append (v : List Char) :
    substitute [ph] (ph.pattern ++ v) = ph.value ++ substitute [ph] v := by
  have hprefix : ph.pattern.isPrefixOf (ph.pattern ++ v) = true :=
    List.isPrefixOf_iff_prefix.2 (List.prefix_append _ _)
  rw [Placeholder.pattern, List.cons_append] at hprefix ⊢
  rw [substitute_single_of_isPrefixOf hprefix, List.drop_left]

/-- A replacement of every occurrence of a pattern, the replaced text collected backwards in
`acc`, is the one-pass fill of a single placeholder. -/
theorem replaceChars_eq_substitute (p : Char) (ps r acc s : List Char) :
    replaceChars p ps r acc s = acc.reverse ++ substitute [⟨p, ps, r⟩] s := by
  -- the induction unfolds each call; the hypothesis sees the replacement through `attach`
  fun_induction replaceChars p ps r acc s with
  | case1 acc => simp
  | case2 acc c rest hprefix ih =>
    rw [List.unattach_reverse, List.unattach_attach] at ih
    rw [ih, @substitute_single_of_isPrefixOf ⟨p, ps, r⟩ c rest hprefix]
    simp
  | case3 acc c rest hprefix ih =>
    rw [ih,
      @substitute_single_of_not_isPrefixOf ⟨p, ps, r⟩ c rest (Bool.eq_false_iff.2 hprefix)]
    simp

end Substitute

/-- Replacing a non-empty pattern is the one-pass fill of one placeholder. -/
theorem replaceText_toList {s pattern replacement : String} {p : Char} {ps : List Char}
    (h : pattern.toList = p :: ps) :
    (replaceText s pattern replacement).toList =
      substitute [⟨p, ps, replacement.toList⟩] s.toList := by
  rw [replaceText, h, String.toList_ofList, replaceChars_eq_substitute, List.reverse_nil,
    List.nil_append]

/-! ### The placeholders of a template -/

/-- `{field}`, standing for a field name. -/
def fieldPlaceholder (field : String) : Placeholder := ⟨'{', "field\x7d".toList, field.toList⟩

/-- `{text}`, standing for a term's text. -/
def textPlaceholder (text : String) : Placeholder := ⟨'{', "text\x7d".toList, text.toList⟩

/-- A template filled in one pass, `{field}` and `{text}` alike. -/
def render (template field text : String) : String :=
  String.ofList (substitute [fieldPlaceholder field, textPlaceholder text] template.toList)

/-- Whether every `{` of a template opens a `{field}` or a `{text}`. -/
def bracesOpenPlaceholders : List Char → Bool
  | [] => true
  | c :: s =>
    (c != '{' || "{field}".toList.isPrefixOf (c :: s) || "{text}".toList.isPrefixOf (c :: s)) &&
      bracesOpenPlaceholders s

/-- A text whose braces all open placeholders keeps that property from any point on. -/
theorem bracesOpenPlaceholders_drop {s : List Char} (h : bracesOpenPlaceholders s = true)
    (n : Nat) : bracesOpenPlaceholders (s.drop n) = true := by
  induction s generalizing n with
  | nil => simp [bracesOpenPlaceholders]
  | cons c s ih =>
    rw [bracesOpenPlaceholders, Bool.and_eq_true] at h
    cases n with
    | zero => simpa [bracesOpenPlaceholders] using h
    | succ n => exact ih h.2 n

/-! ### Two passes against one -/

section Pair

variable {field text : String}

/-- The placeholder a pass fills is one of its list, and the text starts with its pattern. -/
theorem mem_and_prefix_of_find?_eq_some {phs : List Placeholder} {u : List Char}
    {ph : Placeholder} (h : (phs.find? fun ph => ph.pattern.isPrefixOf u) = some ph) :
    ph ∈ phs ∧ ph.pattern <+: u := by
  have hprefix := List.find?_some h
  exact ⟨List.mem_of_find?_eq_some h, List.isPrefixOf_iff_prefix.1 hprefix⟩

/-- A text that starts with a pattern is the pattern and what follows it. -/
theorem eq_pattern_append {ph : Placeholder} {c : Char} {s : List Char}
    (h : ph.pattern <+: c :: s) :
    c :: s = ph.pattern ++ s.drop ph.rest.length := by
  have hsplit := List.prefix_iff_eq_append.1 h
  rw [Placeholder.pattern, List.length_cons, List.drop_succ_cons] at hsplit
  exact hsplit.symm

/-- The `{field}` pass copies a `{text}`. -/
theorem substitute_field_text_pattern (v : List Char) :
    substitute [fieldPlaceholder field] ((textPlaceholder text).pattern ++ v) =
      (textPlaceholder text).pattern ++ substitute [fieldPlaceholder field] v := by
  have hnot :
      (fieldPlaceholder field).pattern.isPrefixOf ('{' :: ("text\x7d".toList ++ v)) = false :=
    rfl
  have hbraces : '{' ∉ "text\x7d".toList := by decide
  rw [show (textPlaceholder text).pattern ++ v = '{' :: ("text\x7d".toList ++ v) from rfl,
    substitute_single_of_not_isPrefixOf hnot,
    @substitute_single_append (fieldPlaceholder field) "text\x7d".toList hbraces]
  rfl

/-- The two passes of the provider agree with one pass over both placeholders when the field
name brings in no `{` and every `{` of the template opens a placeholder. -/
theorem substitute_text_substitute_field (hfield : '{' ∉ field.toList) {t : List Char}
    (ht : bracesOpenPlaceholders t = true) :
    substitute [textPlaceholder text] (substitute [fieldPlaceholder field] t) =
      substitute [fieldPlaceholder field, textPlaceholder text] t := by
  -- induction along the one pass; each step of it is matched by a step of each of the two
  fun_induction substitute [fieldPlaceholder field, textPlaceholder text] t with
  | case1 => simp
  | case2 c s ph hfind ih =>
    have hrest := bracesOpenPlaceholders_drop ht (ph.rest.length + 1)
    obtain ⟨hmem, hprefix⟩ := mem_and_prefix_of_find?_eq_some hfind
    rw [eq_pattern_append hprefix]
    simp only [List.mem_cons, List.not_mem_nil, or_false] at hmem
    rcases hmem with rfl | rfl
    · -- `{field}`: its value holds no `{`, so the `{text}` pass copies it
      rw [substitute_single_pattern_append, substitute_single_append hfield, ih hrest]
    · -- `{text}`: the `{field}` pass copies it and the `{text}` pass fills it
      rw [substitute_field_text_pattern, substitute_single_pattern_append, ih hrest]
  | case3 c s hnone ih =>
    have hF : (fieldPlaceholder field).pattern.isPrefixOf (c :: s) = false :=
      Bool.eq_false_iff.2 (List.find?_eq_none.1 hnone _ List.mem_cons_self)
    have hT : (textPlaceholder text).pattern.isPrefixOf (c :: s) = false :=
      Bool.eq_false_iff.2 (List.find?_eq_none.1 hnone _ (List.mem_cons_of_mem _ List.mem_cons_self))
    rw [bracesOpenPlaceholders, Bool.and_eq_true] at ht
    -- no placeholder starts here, so by the template's braces this is no `{`
    have hc : c ≠ '{' := by
      rintro rfl
      have hfield' : "{field}".toList.isPrefixOf ('{' :: s) = false := hF
      have htext' : "{text}".toList.isPrefixOf ('{' :: s) = false := hT
      rw [hfield', htext'] at ht
      simp at ht
    rw [substitute_single_of_not_isPrefixOf (isPrefixOf_pattern_of_ne hc),
      substitute_single_of_not_isPrefixOf (isPrefixOf_pattern_of_ne hc), ih ht.2]

end Pair

end Template

namespace Provider

open Template

/-- The provider's fill is two one-pass fills: `{field}` first, then `{text}` over the result. -/
theorem fill_toList (template field text : String) :
    (fill template field text).toList =
      substitute [textPlaceholder text] (substitute [fieldPlaceholder field] template.toList) := by
  rw [fill, @replaceText_toList _ "{text}" _ '{' "text\x7d".toList rfl,
    @replaceText_toList _ "{field}" _ '{' "field\x7d".toList rfl]
  rfl

/-- Where the field name holds no `{` and every `{` of the template opens a placeholder, the
provider's fill is the one-pass render. -/
theorem fill_eq_render {template field : String} (text : String) (hfield : '{' ∉ field.toList)
    (htemplate : bracesOpenPlaceholders template.toList = true) :
    fill template field text = render template field text := by
  apply String.toList_injective
  rw [fill_toList, render, String.toList_ofList, substitute_text_substitute_field hfield htemplate]

section Expand

variable {termTemplate : String} {fieldTemplate : Option String} {field text : String}

/-- An empty filled term is refused with a provider error that names the field and the term. -/
theorem expand_template_of_fill_eq_empty (h : fill termTemplate field text = "") :
    (template termTemplate fieldTemplate).expand field text =
      .error (.provider ("template rendered an empty term for " ++ field ++ ":" ++ text)) := by
  simp [expand, h]

/-- Any other filled term gives the leaf of the filled field template, or of the field itself
when there is none. -/
theorem expand_template_of_fill_ne_empty (h : fill termTemplate field text ≠ "") :
    (template termTemplate fieldTemplate).expand field text =
      .ok (Expression.term ((fieldTemplate.map (fill · field text)).getD field)
        (fill termTemplate field text)) := by
  simp only [expand, String.isEmpty_iff, h, if_false]
  cases fieldTemplate <;> rfl

/-- A template expansion fails, and with a provider error, exactly when the filled term is
empty. -/
theorem expand_template_error_iff :
    (∃ e, (template termTemplate fieldTemplate).expand field text = .error (.provider e)) ↔
      fill termTemplate field text = "" := by
  constructor
  · rintro ⟨e, he⟩
    by_contra hne
    rw [expand_template_of_fill_ne_empty hne] at he
    cases he
  · intro h
    exact ⟨_, expand_template_of_fill_eq_empty h⟩

end Expand

/-- What a template expansion gives, for every template, field and term: the term is filled by
two passes, `{field}` then `{text}`; the expansion fails with a provider error exactly when the
filled term is empty, and otherwise gives the leaf of the filled field template (the field
itself without one) and the filled term. Where the field name holds no `{` and every `{` of the
templates opens a placeholder, the same holds of the templates filled in one pass. -/
theorem expand_template (termTemplate : String) (fieldTemplate : Option String)
    (field text : String) :
    (∀ t, (fill t field text).toList =
      substitute [textPlaceholder text] (substitute [fieldPlaceholder field] t.toList)) ∧
    ((∃ e, (template termTemplate fieldTemplate).expand field text = .error (.provider e)) ↔
      fill termTemplate field text = "") ∧
    (fill termTemplate field text ≠ "" →
      (template termTemplate fieldTemplate).expand field text =
        .ok (Expression.term ((fieldTemplate.map (fill · field text)).getD field)
          (fill termTemplate field text))) ∧
    ('{' ∉ field.toList → bracesOpenPlaceholders termTemplate.toList = true →
      (∀ t ∈ fieldTemplate, bracesOpenPlaceholders t.toList = true) →
      ((∃ e, (template termTemplate fieldTemplate).expand field text = .error (.provider e)) ↔
        render termTemplate field text = "") ∧
      (render termTemplate field text ≠ "" →
        (template termTemplate fieldTemplate).expand field text =
          .ok (Expression.term ((fieldTemplate.map (render · field text)).getD field)
            (render termTemplate field text)))) := by
  refine ⟨fun t => fill_toList t field text, expand_template_error_iff,
    expand_template_of_fill_ne_empty, fun hfield hterm hfields => ?_⟩
  have hfill := fill_eq_render text hfield hterm
  -- the field template renders in one pass as well, when there is one
  have htarget :
      fieldTemplate.map (fill · field text) = fieldTemplate.map (render · field text) := by
    cases fieldTemplate with
    | none => rfl
    | some t => rw [Option.map_some, Option.map_some, fill_eq_render text hfield (hfields t rfl)]
  rw [← hfill, ← htarget]
  exact ⟨expand_template_error_iff, expand_template_of_fill_ne_empty⟩

/-- A field name holding `{text}` has it filled: with the term template `{field}`, the field
`{text}` and the term `a`, the expansion is the term `a` in the field `{text}`, where one pass
over the template renders `{text}`. -/
theorem expand_fills_field_name :
    (template "{field}" none).expand "{text}" "a" = .ok (Expression.term "{text}" "a") ∧
      render "{field}" "{text}" "a" = "{text}" := by
  have hfill : fill "{field}" "{text}" "a" = "a" := by decide +kernel
  refine ⟨?_, by decide +kernel⟩
  rw [expand_template_of_fill_ne_empty (by rw [hfill]; decide), hfill]
  rfl

/-- The halves of `{text}` around a `{field}` join once the field name is filled in. -/
example : fill "\x7bte{field}xt\x7d" "" "a" = "a" := by decide +kernel

end Provider

end ConceptQuery
