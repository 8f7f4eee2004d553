import ConceptQuery.Proofs.Analysis.Cuts

/-!
# The whitespace tokenizer

The whitespace tokenizer gives one token per maximal run of non-blank characters of a text, in
order (`whitespace_tokens`). A maximal run is said here by its bytes alone (`Text.IsMaximalRun`):
a non-empty byte range that starts at a character and ends at a character or at the end of the
text, whose characters all satisfy the predicate, while the character just before it and the
character at its end, where there are such, do not.

The scan that finds the runs was shown to follow a grammar (`Text.MaximalRuns`); here each run of
the grammar is a block of the text between a character that fails the predicate, or the start, and
another one, or the end (`Text.MaximalRuns.exists_block`), which makes its bytes a maximal run
(`Text.isMaximalRun_of_mem_runs`). Conversely a maximal run starts with a character that satisfies
the predicate, so some run of the grammar holds that character, and two maximal runs that share a
character are the same bytes (`Text.exists_mem_runs_of_isMaximalRun`). Together with the contract
of every tokenizer (`Token.CutFrom`), this also puts a blank character right after each token that
another token follows.
-/

namespace ConceptQuery

namespace Text

/-! ### Characters laid one after another -/

namespace Laid

variable {o e : Nat} {l : List (Char × Nat)}

/-- The character at the first byte of a laid list is its first character. -/
theorem head?_of_offset (h : Laid o l e) {y : Char × Nat} (hy : y ∈ l) (ho : y.2 = o) :
    l.head? = some y := by
  cases h with
  | nil => cases hy
  | @cons _ _ c xs hxs =>
    rcases List.mem_cons.1 hy with rfl | hy
    · rfl
    · have := (hxs.bounds hy).1
      have := c.utf8Size_pos
      omega

/-- The character that ends at the end of a laid list is its last character. -/
theorem getLast?_of_end (h : Laid o l e) {y : Char × Nat} (hy : y ∈ l)
    (he : y.2 + y.1.utf8Size = e) : l.getLast? = some y := by
  induction h with
  | nil => cases hy
  | @cons a b c xs hxs ih =>
    rcases List.mem_cons.1 hy with rfl | hy
    · -- nothing can follow the character that ends the list
      cases xs with
      | nil => rfl
      | cons x xs' =>
        have := hxs.lt_of_ne_nil (List.cons_ne_nil x xs')
        dsimp only at he
        omega
    · obtain ⟨x, xs', rfl⟩ := List.exists_cons_of_ne_nil (List.ne_nil_of_mem hy)
      rw [List.getLast?_cons_cons]
      exact ih hy he

/-- Two characters of a laid list at the same byte are the same. -/
theorem eq_of_offset (h : Laid o l e) {y z : Char × Nat} (hy : y ∈ l) (hz : z ∈ l)
    (hyz : y.2 = z.2) : y = z := by
  induction h with
  | nil => cases hy
  | @cons a b c xs hxs ih =>
    have hc := c.utf8Size_pos
    rcases List.mem_cons.1 hy with rfl | hy <;> rcases List.mem_cons.1 hz with rfl | hz
    · rfl
    · have := (hxs.bounds hz).1
      dsimp only at hyz
      omega
    · have := (hxs.bounds hy).1
      dsimp only at hyz
      omega
    · exact ih hy hz

/-- A character ends at or before any later one starts. -/
theorem end_le_of_lt (h : Laid o l e) {y z : Char × Nat} (hy : y ∈ l) (hz : z ∈ l)
    (hlt : y.2 < z.2) : y.2 + y.1.utf8Size ≤ z.2 := by
  induction h with
  | nil => cases hy
  | @cons a b c xs hxs ih =>
    rcases List.mem_cons.1 hy with rfl | hy <;> rcases List.mem_cons.1 hz with rfl | hz
    · exact absurd hlt (Nat.lt_irrefl _)
    · exact (hxs.bounds hz).1
    · have := (hxs.bounds hy).1
      dsimp only at hlt
      omega
    · exact ih hy hz

/-- A character that does not stand first has one ending where it starts. -/
theorem exists_end_eq (h : Laid o l e) {y : Char × Nat} (hy : y ∈ l) (ho : o < y.2) :
    ∃ z ∈ l, z.2 + z.1.utf8Size = y.2 := by
  induction h with
  | nil => cases hy
  | @cons a b c xs hxs ih =>
    rcases List.mem_cons.1 hy with rfl | hy
    · exact absurd ho (Nat.lt_irrefl _)
    · have hge := (hxs.bounds hy).1
      rcases Nat.lt_or_eq_of_le hge with hlt | heq
      · obtain ⟨z, hz, hze⟩ := ih hy hlt
        exact ⟨z, List.mem_cons_of_mem _ hz, hze⟩
      · exact ⟨(c, a), List.mem_cons_self, heq⟩

end Laid

/-- Pairing characters with offsets keeps the characters. -/
theorem map_fst_withOffsetsFrom (o : Nat) (cs : List Char) :
    (withOffsetsFrom o cs).map Prod.fst = cs := by
  induction cs generalizing o with
  | nil => rfl
  | cons c cs ih => exact congrArg (c :: ·) (ih _)

/-- Pairing a text's characters with offsets keeps its characters. -/
theorem map_fst_withOffsets (s : String) : (withOffsets s).map Prod.fst = s.toList :=
  map_fst_withOffsetsFrom 0 s.toList

/-! ### Maximal runs by their bytes -/

/-- `[a, b)` is a maximal run of characters satisfying `p` in a text: a non-empty byte range that
starts at a character and ends at a character or at the end, whose characters all satisfy `p`,
while the character just before it and the character at its end, where there are such, do not. -/
structure IsMaximalRun (p : Char → Bool) (s : String) (a b : Nat) : Prop where
  /-- The run is not empty. -/
  lt : a < b
  /-- It starts at a character. -/
  start : ∃ c, (c, a) ∈ withOffsets s
  /-- It ends at the end of the text or at a character. -/
  stop : b = s.utf8ByteSize ∨ ∃ c, (c, b) ∈ withOffsets s
  /-- Every character inside satisfies `p`. -/
  inside : ∀ y ∈ withOffsets s, a ≤ y.2 → y.2 < b → p y.1 = true
  /-- The character just before it does not. -/
  before : ∀ y ∈ withOffsets s, y.2 + y.1.utf8Size = a → p y.1 = false
  /-- The character just after it does not. -/
  after : ∀ y ∈ withOffsets s, y.2 = b → p y.1 = false

variable {p : Char → Bool}

namespace MaximalRuns

variable {xs : List (Char × Nat)} {ps : List Piece}

/-- Each run of the grammar is a block of the characters, after the start or a character that
fails `p`, and before the end or a character that fails `p`. -/
theorem exists_block (h : MaximalRuns p xs ps) {q : Piece} (hq : q ∈ ps) :
    ∃ pre r post, xs = pre ++ r ++ post ∧ r ≠ [] ∧ (∀ y ∈ r, p y.1 = true) ∧
      (∀ y ∈ pre.getLast?, p y.1 = false) ∧ (∀ y ∈ post.head?, p y.1 = false) ∧
      ∃ a b, Laid a r b ∧ q = ⟨String.ofList (r.map Prod.fst), a, b⟩ := by
  induction h with
  | nil => cases hq
  | @skip x xs ps hx _ ih =>
    obtain ⟨pre, r, post, rfl, hne, hr, hpre, hpost, hlaid⟩ := ih hq
    refine ⟨x :: pre, r, post, by simp, hne, hr, ?_, hpost, hlaid⟩
    -- the character passed over ends the prefix when nothing else does
    cases pre with
    | nil => simpa using hx
    | cons y pre => rwa [List.getLast?_cons_cons]
  | @run a b r xs ps hne hr hxs hlaid _ ih =>
    rcases List.mem_cons.1 hq with rfl | hq
    · exact ⟨[], r, xs, rfl, hne, hr, by simp, hxs, a, b, hlaid, rfl⟩
    · obtain ⟨pre, r', post, rfl, hne', hr', hpre, hpost, hlaid'⟩ := ih hq
      -- a later run is not the next character: that one fails `p`
      have hpre_ne : pre ≠ [] := by
        rintro rfl
        obtain ⟨y, ys, rfl⟩ := List.exists_cons_of_ne_nil hne'
        have := hxs y (by simp)
        rw [hr' y List.mem_cons_self] at this
        cases this
      refine ⟨r ++ pre, r', post, by simp, hne', hr', ?_, hpost, hlaid'⟩
      rwa [List.getLast?_append_of_ne_nil _ hpre_ne]

/-- Every character that satisfies `p` lies in a run. -/
theorem covers (h : MaximalRuns p xs ps) {o e : Nat} (hlaid : Laid o xs e) {y : Char × Nat}
    (hy : y ∈ xs) (hp : p y.1 = true) : ∃ q ∈ ps, q.start ≤ y.2 ∧ y.2 < q.stop := by
  induction h generalizing o with
  | nil => cases hy
  | @skip x xs ps hx _ ih =>
    rcases List.mem_cons.1 hy with rfl | hy
    · rw [hx] at hp
      exact absurd hp Bool.false_ne_true
    · exact ih (laid_cons_iff.1 hlaid).2 hy
  | @run a b r xs ps hne _ _ hr _ ih =>
    obtain ⟨m, hrm, hxs⟩ := laid_append_iff.1 hlaid
    rcases List.mem_append.1 hy with hy | hy
    · exact ⟨_, List.mem_cons_self, hr.bounds hy⟩
    · obtain ⟨q, hq, hbounds⟩ := ih hxs hy
      exact ⟨q, List.mem_cons_of_mem _ hq, hbounds⟩

/-- The runs of laid characters are cut from them in order. -/
theorem cuts (h : MaximalRuns p xs ps) {o e : Nat} (hlaid : Laid o xs e) :
    Cuts o (xs.map Prod.fst) ps := by
  induction h generalizing o with
  | nil => exact .nil o []
  | @skip x xs ps _ _ ih =>
    obtain ⟨-, hxs⟩ := laid_cons_iff.1 hlaid
    have hskip := Cuts.skip [x.1] (by simpa [String.utf8Len_cons] using ih hxs)
    simpa using hskip
  | @run a b r xs ps hne _ _ hr _ ih =>
    obtain ⟨m, hrm, hxs⟩ := laid_append_iff.1 hlaid
    obtain ⟨rfl, rfl⟩ := hr.unique hrm hne
    rw [List.map_append, ← List.nil_append (r.map Prod.fst)]
    exact .cons [] (r.map Prod.fst) (by simpa using hne) (by simp) hr.stop_eq (ih hxs)

end MaximalRuns

/-- The bytes of each run of a text are a maximal run. -/
theorem isMaximalRun_of_mem_runs {s : String} {q : Piece} (hq : q ∈ Piece.runs p s) :
    IsMaximalRun p s q.start q.stop := by
  obtain ⟨pre, r, post, hxs, hne, hr, hpre, hpost, a, b, hlaid, rfl⟩ :=
    (maximalRuns_runs p s).exists_block hq
  have hall := laid_withOffsets s
  rw [hxs] at hall
  obtain ⟨m₂, hpr, hpost_laid⟩ := laid_append_iff.1 hall
  obtain ⟨m₁, hpre_laid, hr_laid⟩ := laid_append_iff.1 hpr
  obtain ⟨rfl, rfl⟩ := hlaid.unique hr_laid hne
  obtain ⟨y₀, ys, rfl⟩ := List.exists_cons_of_ne_nil hne
  obtain ⟨hy₀, -⟩ := laid_cons_iff.1 hlaid
  -- where each character of the text lies: before the run, in it, or after it
  have hplace : ∀ y ∈ withOffsets s,
      (y ∈ pre ∧ y.2 < a) ∨ (y ∈ y₀ :: ys ∧ a ≤ y.2 ∧ y.2 < b) ∨ (y ∈ post ∧ b ≤ y.2) := by
    intro y hy
    rw [hxs, List.mem_append, List.mem_append] at hy
    rcases hy with (hy | hy) | hy
    · exact .inl ⟨hy, (hpre_laid.bounds hy).2⟩
    · exact .inr (.inl ⟨hy, hlaid.bounds hy⟩)
    · exact .inr (.inr ⟨hy, (hpost_laid.bounds hy).1⟩)
  have hmem : ∀ y, y ∈ y₀ :: ys ∨ y ∈ post → y ∈ withOffsets s := by
    intro y hy
    rw [hxs, List.mem_append, List.mem_append]
    rcases hy with hy | hy
    · exact .inl (.inr hy)
    · exact .inr hy
  show IsMaximalRun p s a b
  refine ⟨hlaid.lt_of_ne_nil (List.cons_ne_nil _ _),
    ⟨y₀.1, by rw [← hy₀]; exact hmem y₀ (.inl List.mem_cons_self)⟩, ?_, ?_, ?_, ?_⟩
  · -- the run ends at the end of the text or at the next character
    cases post with
    | nil =>
      cases hpost_laid
      exact .inl rfl
    | cons z zs =>
      obtain ⟨hz, -⟩ := laid_cons_iff.1 hpost_laid
      exact .inr ⟨z.1, by rw [← hz]; exact hmem z (.inr List.mem_cons_self)⟩
  · intro y hy hay hyb
    rcases hplace y hy with ⟨-, h⟩ | ⟨hyr, -⟩ | ⟨-, h⟩
    · omega
    · exact hr y hyr
    · omega
  · intro y hy hya
    have hpos := y.1.utf8Size_pos
    rcases hplace y hy with ⟨hyp, -⟩ | ⟨-, h, -⟩ | ⟨-, h⟩
    · exact hpre y (by rw [hpre_laid.getLast?_of_end hyp hya]; rfl)
    · omega
    · have := hlaid.le
      omega
  · intro y hy hyb
    rcases hplace y hy with ⟨-, h⟩ | ⟨-, -, h⟩ | ⟨hyp, -⟩
    · have := hlaid.le
      omega
    · omega
    · exact hpost y (by rw [hpost_laid.head?_of_offset hyp hyb]; rfl)

/-- Each maximal run of a text is the bytes of one of its runs. -/
theorem exists_mem_runs_of_isMaximalRun {s : String} {a b : Nat} (h : IsMaximalRun p s a b) :
    ∃ q ∈ Piece.runs p s, q.start = a ∧ q.stop = b := by
  have hlaid := laid_withOffsets s
  obtain ⟨c, hc⟩ := h.start
  -- the run that holds the first character
  obtain ⟨q, hq, hqa, hqa'⟩ :=
    (maximalRuns_runs p s).covers hlaid hc (h.inside _ hc (Nat.le_refl a) h.lt)
  have hmax := isMaximalRun_of_mem_runs hq
  have hb_le : b ≤ s.utf8ByteSize := by
    rcases h.stop with hb | ⟨c', hc'⟩
    · exact Nat.le_of_eq hb
    · exact Nat.le_of_lt (hlaid.bounds hc').2
  have hqb_le : q.stop ≤ s.utf8ByteSize := by
    rcases hmax.stop with hb | ⟨c', hc'⟩
    · exact Nat.le_of_eq hb
    · exact Nat.le_of_lt (hlaid.bounds hc').2
  have hstart : q.start = a := by
    refine (Nat.eq_or_lt_of_le hqa).resolve_right fun hlt => ?_
    -- the character ending where the maximal run starts would lie inside the run
    obtain ⟨z, hz, hza⟩ := hlaid.exists_end_eq hc (Nat.lt_of_le_of_lt (Nat.zero_le _) hlt)
    obtain ⟨c', hc'⟩ := hmax.start
    have hzq : q.start ≤ z.2 := by
      refine Nat.le_of_not_lt fun hzlt => ?_
      have := hlaid.end_le_of_lt hz hc' hzlt
      dsimp only at hza this
      omega
    have hin := hmax.inside z hz hzq (by have := z.1.utf8Size_pos; dsimp only at hza; omega)
    rw [h.before z hz hza] at hin
    exact Bool.false_ne_true hin
  refine ⟨q, hq, hstart, ?_⟩
  rcases Nat.lt_trichotomy q.stop b with hlt | heq | hgt
  · -- the character where the run ends would lie inside the maximal run
    obtain ⟨c', hc'⟩ := hmax.stop.resolve_left (by omega)
    have hin := h.inside _ hc' (by rw [← hstart]; exact Nat.le_of_lt hmax.lt) hlt
    rw [hmax.after _ hc' rfl] at hin
    exact absurd hin Bool.false_ne_true
  · exact heq
  · -- the character where the maximal run ends would lie inside the run
    obtain ⟨c', hc'⟩ := h.stop.resolve_left (by omega)
    have hin := hmax.inside _ hc' (by rw [hstart]; exact Nat.le_of_lt h.lt) hgt
    rw [h.after _ hc' rfl] at hin
    exact absurd hin Bool.false_ne_true

/-- Of two maximal runs, one ending at or before the other starts, the first ends at a character
that fails `p`, so strictly before the second starts. -/
theorem IsMaximalRun.apart {s : String} {a b a' b' : Nat} (h : IsMaximalRun p s a b)
    (h' : IsMaximalRun p s a' b') (hle : b ≤ a') :
    b < a' ∧ ∃ c, (c, b) ∈ withOffsets s ∧ p c = false := by
  have hlaid := laid_withOffsets s
  obtain ⟨c', hc'⟩ := h'.start
  -- the first run ends at a character, since the second starts after it
  obtain ⟨c, hc⟩ := h.stop.resolve_left fun hend => by
    have := h'.lt
    have := (hlaid.bounds hc').2
    dsimp only at this
    omega
  have hfails : p c = false := h.after _ hc rfl
  refine ⟨(Nat.lt_or_eq_of_le hle).resolve_right fun heq => ?_, c, hc, hfails⟩
  -- the character where the first run ends would start the second
  have hcc : (c, b) = (c', a') := hlaid.eq_of_offset hc hc' heq
  have hin := h'.inside _ hc' (Nat.le_refl _) h'.lt
  rw [← hcc] at hin
  simp [hfails] at hin

/-- The runs of a text are cut from it in order. -/
theorem cuts_runs (p : Char → Bool) (s : String) : Cuts 0 s.toList (Piece.runs p s) := by
  have h := (maximalRuns_runs p s).cuts (laid_withOffsets s)
  rwa [map_fst_withOffsets] at h

end Text

/-- The whitespace tokenizer gives, in order, one token per maximal run of non-blank characters:
each token is cut from the bytes of its run, which it holds, at its index as position, moving the
position by one and not stopped, and the runs' bytes are exactly the maximal runs. Between two
tokens that follow each other there is a blank character, right where the first one ends. -/
theorem whitespace_tokens (text : String) :
    Token.CutFrom text (Tokenizer.whitespace.tokenize text) ∧
    (∀ a b, (a, b) ∈ (Tokenizer.whitespace.tokenize text).map (fun t => (t.start, t.stop)) ↔
      Text.IsMaximalRun (fun c => !Text.isBlank c) text a b) ∧
    ∀ l₁ t u l₂, Tokenizer.whitespace.tokenize text = l₁ ++ t :: u :: l₂ →
      t.stop < u.start ∧ ∃ c, (c, t.stop) ∈ Text.withOffsets text ∧ Text.isBlank c = true := by
  have hcut : Token.CutFrom text (Tokenizer.whitespace.tokenize text) :=
    Tokenizer.cutFrom_numbered (Text.cuts_runs _ text)
  have hspans : ∀ a b, (a, b) ∈ (Tokenizer.whitespace.tokenize text).map
      (fun t => (t.start, t.stop)) ↔ Text.IsMaximalRun (fun c => !Text.isBlank c) text a b := by
    intro a b
    rw [Tokenizer.tokenize, Tokenizer.spans_numbered, List.mem_map]
    constructor
    · rintro ⟨q, hq, hab⟩
      rw [Prod.mk.injEq] at hab
      obtain ⟨rfl, rfl⟩ := hab
      exact Text.isMaximalRun_of_mem_runs hq
    · intro h
      obtain ⟨q, hq, rfl, rfl⟩ := Text.exists_mem_runs_of_isMaximalRun h
      exact ⟨q, hq, rfl⟩
  refine ⟨hcut, hspans, fun l₁ t u l₂ hts => ?_⟩
  have hmem : ∀ v ∈ [t, u], Text.IsMaximalRun (fun c => !Text.isBlank c) text v.start v.stop := by
    intro v hv
    refine (hspans _ _).1 (List.mem_map.2 ⟨v, ?_, rfl⟩)
    rw [hts]
    simp only [List.mem_cons, List.not_mem_nil, or_false] at hv
    rcases hv with rfl | rfl <;> simp
  have hle : t.stop ≤ u.start := by
    have hord := hcut.ordered
    rw [hts, List.pairwise_append, List.pairwise_cons] at hord
    exact hord.2.1.1 u List.mem_cons_self
  obtain ⟨hlt, c, hc, hblank⟩ := (hmem t (by simp)).apart (hmem u (by simp)) hle
  exact ⟨hlt, c, hc, by simpa using hblank⟩

end ConceptQuery
