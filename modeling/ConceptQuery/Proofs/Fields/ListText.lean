import ConceptQuery.Proofs.Decimal.ReadBack
import ConceptQuery.Proofs.Request.FieldList

/-!
# The list text of a field list read back

`FieldWeights.render` writes a field list as its list text, `title,body^2`, and
`FieldWeights.parse` reads such a text. Reading the text of a field list gives the same list
back (`FieldWeights.parse_render`): the same names in the same order, with weights equal bit for
bit, one written without a caret, the others as the plain text of a single, which reads back as
that single (`Decimal.parse_renderFloat32`).

The list must be one the text can carry: each name is plain (non-empty, trimmed, with no comma
and no caret: `FieldWeights.PlainName`), and no weight is NaN, whose text `NaN` reads back as a
NaN that need not have the same bits. Its names are distinct, as in every field list.

The reading splits the text at commas, trims each entry and splits it at its first caret. An
entry text is trimmed already (`FieldWeights.trimBlank_entryText`): it starts with its name and
ends with its name or a weight, and a weight's text has no blank (`Decimal.renderFloat32_chars`).
-/

namespace ConceptQuery

/-! ### Trimmed texts -/

namespace Text

/-- Text that starts with no dropped character, followed by more such text, loses nothing. -/
theorem dropWhile_append_of_eq {p : Char → Bool} {l r : List Char} (hl : l.dropWhile p = l)
    (hr : r.dropWhile p = r) : (l ++ r).dropWhile p = l ++ r := by
  rw [List.dropWhile_append, hl]
  split
  · rename_i hnil
    rw [List.isEmpty_iff.1 hnil, List.nil_append, hr]
  · rfl

/-- Trimming drops nothing from text without blank characters. -/
theorem dropWhile_of_not_blank {l : List Char} (h : ∀ c ∈ l, isBlank c = false) :
    l.dropWhile isBlank = l :=
  List.dropWhile_eq_self_iff.2 fun hl => by simp [h _ (List.getElem_mem hl)]

/-- A text is trimmed when trimming drops nothing from either end. -/
theorem trimBlank_eq_self_iff {s : String} :
    trimBlank s = s ↔ s.toList.dropWhile isBlank = s.toList ∧
      s.toList.reverse.dropWhile isBlank = s.toList.reverse := by
  constructor
  · intro h
    have hl := congrArg String.toList h
    simp only [trimBlank, String.toList_ofList] at hl
    -- each trimming step keeps a suffix, and the result is as long as the text
    have hlen := congrArg List.length hl
    rw [List.length_reverse] at hlen
    have h₁ := (List.dropWhile_suffix (l := s.toList) isBlank)
    have h₂ := (List.dropWhile_suffix (l := (s.toList.dropWhile isBlank).reverse) isBlank)
    have hle₁ := h₁.length_le
    have hle₂ := h₂.length_le
    rw [List.length_reverse] at hle₂
    have hd : s.toList.dropWhile isBlank = s.toList := h₁.eq_of_length (by omega)
    refine ⟨hd, ?_⟩
    rw [hd] at h₂ hlen
    exact h₂.eq_of_length (by rw [List.length_reverse]; omega)
  · rintro ⟨hd, hr⟩
    rw [trimBlank, hd, hr, List.reverse_reverse, String.ofList_toList]

/-- A trimmed text followed by characters none of which is blank is trimmed. -/
theorem trimBlank_append {a b : String} (ha : trimBlank a = a)
    (hb : ∀ c ∈ b.toList, isBlank c = false) : trimBlank (a ++ b) = a ++ b := by
  obtain ⟨hd, hr⟩ := trimBlank_eq_self_iff.1 ha
  refine trimBlank_eq_self_iff.2 ⟨?_, ?_⟩
  · rw [String.toList_append]
    exact dropWhile_append_of_eq hd (dropWhile_of_not_blank hb)
  · rw [String.toList_append, List.reverse_append]
    exact dropWhile_append_of_eq
      (dropWhile_of_not_blank fun c hc => hb c (List.mem_reverse.1 hc)) hr

/-- A digit is not blank. -/
theorem isBlank_of_isDigit {c : Char} (h : c.isDigit = true) : isBlank c = false := by
  simp only [Char.isDigit, Bool.and_eq_true, decide_eq_true_eq, UInt32.le_iff_toNat_le] at h
  have h0 : ('0' : Char).val.toNat = 48 := rfl
  have h9 : ('9' : Char).val.toNat = 57 := rfl
  have hc : c.toNat = c.val.toNat := rfl
  simp only [isBlank, Bool.or_eq_false_iff, Bool.and_eq_false_iff, decide_eq_false_iff_not,
    beq_eq_false_iff_ne]
  omega

end Text

namespace FieldWeights

/-! ### The text of one entry -/

/-- The characters of a weight's text are no blank, no comma and no caret. -/
theorem weightText_chars {w : Float32} (hw : w.isNaN = false) :
    ∀ c ∈ (weightText w).toList, Text.isBlank c = false ∧ c ≠ ',' ∧ c ≠ '^' := by
  intro c hc
  rcases Decimal.renderFloat32_chars hw c hc with h | h
  · refine ⟨Text.isBlank_of_isDigit h, ?_, ?_⟩ <;> rintro rfl <;> simp at h
  · simp only [List.mem_cons, List.not_mem_nil, or_false] at h
    rcases h with rfl | rfl | rfl | rfl | rfl <;> decide

/-- Text without the separator, then the separator, splits there. -/
theorem splitFirst_append {sep : Char} {l : List Char} (h : sep ∉ l) (r : List Char) :
    splitFirst sep (l ++ sep :: r) = some (l, r) := by
  have hl : ∀ c ∈ l, (c != sep) = true := fun c hc => bne_iff_ne.2 fun heq => h (heq ▸ hc)
  unfold splitFirst
  rw [List.span_eq_takeWhile_dropWhile, List.takeWhile_append_of_pos hl,
    List.dropWhile_append_of_pos hl]
  simp

/-- A plain name is not empty. -/
theorem PlainName.isEmpty_eq_false {n : String} (hn : PlainName n) : n.isEmpty = false :=
  Bool.eq_false_iff.2 fun he => hn.nonempty (String.isEmpty_iff.1 he)

/-- A field of weight one is written as its name alone. -/
theorem entryText_of_beq {e : String × Float32} (h : (e.2 == 1) = true) : entryText e = e.1 := by
  simp [entryText, bne, h]

/-- A field of another weight is written as its name, a caret and the weight. -/
theorem entryText_of_not_beq {e : String × Float32} (h : (e.2 == 1) = false) :
    entryText e = e.1 ++ ("^" ++ weightText e.2) := by
  simp [entryText, bne, h]

/-- An entry text is trimmed: it starts with a trimmed name, and all after the name is a caret and
a weight, none of them blank. -/
theorem trimBlank_entryText {e : String × Float32} (hn : PlainName e.1)
    (hw : e.2.isNaN = false) : Text.trimBlank (entryText e) = entryText e := by
  cases h : e.2 == 1
  · rw [entryText_of_not_beq h]
    refine Text.trimBlank_append hn.trimmed fun c hc => ?_
    rw [String.toList_append, List.mem_append] at hc
    rcases hc with hc | hc
    · rw [show "^".toList = ['^'] from rfl, List.mem_singleton] at hc
      rw [hc]
      rfl
    · exact (weightText_chars hw c hc).1
  · rw [entryText_of_beq h]
    exact hn.trimmed

/-- The text of a plain field with a number for weight holds no comma. -/
theorem no_comma_entryText {e : String × Float32} (hn : PlainName e.1)
    (hw : e.2.isNaN = false) : ',' ∉ (entryText e).toList := by
  cases h : e.2 == 1
  · rw [entryText_of_not_beq h, String.toList_append, String.toList_append, List.mem_append,
      List.mem_append, not_or, not_or]
    refine ⟨hn.no_comma, by decide, fun hc => (weightText_chars hw ',' hc).2.1 rfl⟩
  · rw [entryText_of_beq h]
    exact hn.no_comma

/-- The text of a plain field is not empty. -/
theorem isEmpty_entryText {e : String × Float32} (hn : PlainName e.1) :
    (entryText e).isEmpty = false := by
  cases h : e.2 == 1
  · -- the caret alone makes the text non-empty
    rw [entryText_of_not_beq h]
    refine Bool.eq_false_iff.2 fun he => ?_
    have hlen := congrArg String.length (String.isEmpty_iff.1 he)
    simp at hlen
  · rw [entryText_of_beq h]
    exact hn.isEmpty_eq_false

/-- An entry text reads as the entry: its name, and its weight bit for bit. -/
theorem readEntry_entryText {e : String × Float32} (hn : PlainName e.1)
    (hw : e.2.isNaN = false) : readEntry (entryText e) = .ok e := by
  cases h : e.2 == 1
  · obtain ⟨lit, hparse, hread⟩ := Decimal.parse_renderFloat32 e.2 hw
    have hcaret : '^' ∉ e.1.toList := hn.no_caret
    have hsplit : splitFirst '^' (entryText e).toList =
        some (e.1.toList, (weightText e.2).toList) := by
      rw [entryText_of_not_beq h, String.toList_append, String.toList_append,
        show "^".toList = ['^'] from rfl, List.singleton_append]
      exact splitFirst_append hcaret _
    have hweight : Text.trimBlank (weightText e.2) = weightText e.2 := by
      simpa using Text.trimBlank_append (a := "") (by decide) fun c hc => (weightText_chars hw c hc).1
    unfold readEntry
    rw [hsplit]
    simp only [String.ofList_toList, hweight]
    rw [show Decimal.Literal.parse (weightText e.2) = .ok lit from hparse]
    simp only [hn.trimmed, hn.isEmpty_eq_false, Bool.false_eq_true, if_false, hread]
  · rw [entryText_of_beq h, readEntry_of_no_caret hn.no_caret, ← Weight.eq_one_of_beq e.2 h]

/-! ### The whole text -/

/-- Reading the entry texts of plain names and weights that are not NaN inserts the entries in
order. -/
theorem extendFromEntries_entryTexts (fs : FieldWeights) {es : List (String × Float32)}
    (hn : ∀ e ∈ es, PlainName e.1) (hw : ∀ e ∈ es, e.2.isNaN = false) :
    fs.extendFromEntries (es.map entryText) = (es.foldl (fun acc p => acc.insert p.1 p.2) fs, none) := by
  induction es generalizing fs with
  | nil => rfl
  | cons e es ih =>
    have hne := hn e List.mem_cons_self
    have hwe := hw e List.mem_cons_self
    rw [List.map_cons, extendFromEntries, trimBlank_entryText hne hwe,
      isEmpty_entryText hne, readEntry_entryText hne hwe]
    exact ih _ (fun e' h' => hn e' (List.mem_cons_of_mem e h'))
      (fun e' h' => hw e' (List.mem_cons_of_mem e h'))

/-- The list text splits at its commas into the entry texts. -/
theorem splitToList_render {fs : FieldWeights} (hne : fs.entries ≠ [])
    (h : ∀ e ∈ fs.entries, ',' ∉ (entryText e).toList) :
    fs.render.splitToList (· == ',') = fs.entries.map entryText := by
  have hsplit : (",".intercalate (fs.entries.map entryText)).toList.splitOnP (· == ',') =
      (fs.entries.map entryText).map String.toList := by
    rw [String.toList_intercalate, show ",".toList = [','] from rfl, ← List.splitOn_eq_splitOnP]
    refine List.splitOn_intercalate ',' ?_ (by simpa using hne)
    intro l hl
    rw [List.map_map, List.mem_map] at hl
    obtain ⟨e, he, rfl⟩ := hl
    exact h e he
  rw [render, String.splitToList_of_valid, hsplit, List.map_map]
  conv => rhs; rw [← List.map_id (fs.entries.map entryText)]
  exact List.map_congr_left fun s _ => String.ofList_toList

/-- Reading the list text of a field list gives the list back: the same names in the same order,
with the same weights bit for bit. -/
theorem parse_render {fs : FieldWeights} (hn : ∀ n ∈ fs.names, PlainName n)
    (hw : ∀ e ∈ fs.entries, e.2.isNaN = false) : parse fs.render = .ok fs := by
  obtain ⟨es, hnodup⟩ := fs
  have hn' : ∀ e ∈ es, PlainName e.1 := fun e he => hn e.1 (List.mem_map_of_mem he)
  cases es with
  | nil =>
    -- the empty text is one empty entry, which is skipped
    have hsplit : (render ⟨[], hnodup⟩).splitToList (· == ',') = [""] := by
      rw [String.splitToList_of_valid]
      rfl
    unfold parse extend extendFromList
    rw [hsplit]
    rfl
  | cons e es' =>
    unfold parse extend extendFromList
    rw [splitToList_render (List.cons_ne_nil e es') fun e he => no_comma_entryText (hn' e he) (hw e he),
      extendFromEntries_entryTexts _ hn' hw]
    have hentries : (List.foldl (fun acc p => acc.insert p.1 p.2) empty (e :: es')).entries =
        e :: es' :=
      @entries_foldl_insert (e :: es') empty hnodup (by simp [empty, names])
    exact congrArg Except.ok (FieldWeights.ext hentries)

/-- Fields of weights two, one and minus one half read back from their list text. -/
theorem parse_render_weighted :
    let fs : FieldWeights := ⟨[("title", 2), ("body", 1), ("notes", -0.5)], by decide⟩
    ((∀ n ∈ fs.names, PlainName n) ∧ ∀ e ∈ fs.entries, e.2.isNaN = false) ∧
      parse fs.render = .ok fs := by
  intro fs
  have hn : ∀ n ∈ fs.names, PlainName n := by
    intro n hn
    simp only [fs, names, List.map_cons, List.map_nil, List.mem_cons, List.not_mem_nil,
      or_false] at hn
    rcases hn with rfl | rfl | rfl <;> exact ⟨by decide, by decide +kernel, by decide, by decide⟩
  have hw : ∀ e ∈ fs.entries, e.2.isNaN = false := by decide
  exact ⟨⟨hn, hw⟩, parse_render hn hw⟩

end FieldWeights

end ConceptQuery
