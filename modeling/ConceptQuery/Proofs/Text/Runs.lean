import Mathlib
import ConceptQuery.Text.Piece

/-!
# Maximal runs of characters

`Piece.runs p s` scans a text once, character by character with its byte offset, building the
current run of characters that satisfy `p` and closing it at the first character that does not,
or at the end. This file says what it computes without the scan: the *maximal runs*
(`MaximalRuns`), a grammar over the characters with their offsets in which every character that
fails `p` is passed over and every run is a non-empty block of characters satisfying `p` that the
next character, if any, ends. A run becomes the piece of its characters and of the bytes it takes.
The scan finds exactly these pieces (`maximalRuns_iff`).

**Bytes.** The offsets of a text's characters are laid one after another (`Laid`): the first at
byte zero, each next one after the bytes of the one before, the last ending at the text's size
(`laid_withOffsets`). So the pieces of a text lie inside it, each takes at least one byte, and
each ends before the next begins (`MaximalRuns.bounds`, `MaximalRuns.pairwise`); the characters
whose offsets lie in a piece's bytes are exactly the piece's characters
(`MaximalRuns.filter_offsets`).
-/

namespace ConceptQuery.Text

/-! ### Characters laid one after another -/

/-- `Laid a xs b`: the characters of `xs` stand one after another in UTF-8, each at its own
offset, the first at byte `a` and the last ending at byte `b`. -/
inductive Laid : Nat → List (Char × Nat) → Nat → Prop
  /-- No characters, laid from a place to itself. -/
  | nil (a : Nat) : Laid a [] a
  /-- A character at the place, then characters laid from past its bytes. -/
  | cons {a b : Nat} {c : Char} {xs : List (Char × Nat)} :
      Laid (a + c.utf8Size) xs b → Laid a ((c, a) :: xs) b

/-- Characters paired with offsets from a place are laid from it to the place past their bytes. -/
theorem laid_withOffsetsFrom (a : Nat) (cs : List Char) :
    Laid a (withOffsetsFrom a cs) (a + String.utf8Len cs) := by
  induction cs generalizing a with
  | nil => exact .nil a
  | cons c cs ih =>
    rw [String.utf8Len_cons, Nat.add_comm (String.utf8Len cs), ← Nat.add_assoc]
    exact .cons (ih (a + c.utf8Size))

/-- The characters of a text are laid from its first byte to its size. -/
theorem laid_withOffsets (s : String) : Laid 0 (withOffsets s) s.utf8ByteSize := by
  have h := laid_withOffsetsFrom 0 s.toList
  rwa [Nat.zero_add, ← String.utf8ByteSize_ofList, String.ofList_toList] at h

/-- Characters are laid from a place when the first stands there and the rest follow its bytes. -/
theorem laid_cons_iff {a b : Nat} {x : Char × Nat} {xs : List (Char × Nat)} :
    Laid a (x :: xs) b ↔ x.2 = a ∧ Laid (a + x.1.utf8Size) xs b := by
  constructor
  · rintro (_ | h)
    exact ⟨rfl, h⟩
  · obtain ⟨c, o⟩ := x
    rintro ⟨rfl, h⟩
    exact .cons h

/-- Characters laid one after another split where the list does. -/
theorem laid_append_iff {a b : Nat} {xs ys : List (Char × Nat)} :
    Laid a (xs ++ ys) b ↔ ∃ m, Laid a xs m ∧ Laid m ys b := by
  induction xs generalizing a with
  | nil =>
    constructor
    · exact fun h => ⟨a, .nil a, h⟩
    · rintro ⟨m, (_ | _), h⟩
      exact h
  | cons x xs ih =>
    rw [List.cons_append, laid_cons_iff, ih]
    constructor
    · rintro ⟨hx, m, hxs, hys⟩
      exact ⟨m, laid_cons_iff.2 ⟨hx, hxs⟩, hys⟩
    · rintro ⟨m, hxs, hys⟩
      obtain ⟨hx, hxs⟩ := laid_cons_iff.1 hxs
      exact ⟨hx, m, hxs, hys⟩

namespace Laid

variable {a b : Nat} {xs : List (Char × Nat)}

/-- Characters are laid forwards. -/
theorem le (h : Laid a xs b) : a ≤ b := by
  induction h with
  | nil => exact Nat.le_refl _
  | cons _ ih => omega

/-- Every character of a laid list stands at or after its first byte and before its end. -/
theorem bounds (h : Laid a xs b) {y : Char × Nat} (hy : y ∈ xs) : a ≤ y.2 ∧ y.2 < b := by
  induction h with
  | nil => cases hy
  | @cons a b c xs hxs ih =>
    have hc := c.utf8Size_pos
    rcases List.mem_cons.1 hy with rfl | hy
    · exact ⟨Nat.le_refl _, Nat.lt_of_lt_of_le (by omega) hxs.le⟩
    · have := ih hy
      omega

/-- A laid list that is not empty takes at least one byte. -/
theorem lt_of_ne_nil (h : Laid a xs b) (hne : xs ≠ []) : a < b := by
  cases h with
  | nil => exact absurd rfl hne
  | @cons _ _ c _ hxs =>
    have hc := c.utf8Size_pos
    have := hxs.le
    omega

/-- A laid list that is not empty starts at the offset of its first character. -/
theorem head_offset (h : Laid a xs b) {y : Char × Nat} (hy : xs.head? = some y) : y.2 = a := by
  cases h with
  | nil => cases hy
  | cons _ =>
    cases hy
    rfl

/-- The last character of a laid list ends at its end. -/
theorem concat_end {x : Char × Nat} (h : Laid a (xs ++ [x]) b) : b = x.2 + x.1.utf8Size := by
  obtain ⟨m, -, hx⟩ := laid_append_iff.1 h
  obtain ⟨rfl, hnil⟩ := laid_cons_iff.1 hx
  cases hnil
  rfl

/-- A laid list ends after the bytes of its characters. -/
theorem stop_eq (h : Laid a xs b) : b = a + String.utf8Len (xs.map Prod.fst) := by
  induction h with
  | nil => rfl
  | cons _ ih =>
    rw [ih, List.map_cons, String.utf8Len_cons]
    dsimp only
    omega

/-- The characters of a non-empty laid list fix where it starts and ends. -/
theorem unique {a' b' : Nat} (h : Laid a xs b) (h' : Laid a' xs b') (hne : xs ≠ []) :
    a = a' ∧ b = b' := by
  obtain ⟨y, hy⟩ : ∃ y, xs.head? = some y := Option.ne_none_iff_exists'.1 (by simpa using hne)
  have ha : a = a' := by rw [← h.head_offset hy, h'.head_offset hy]
  subst ha
  exact ⟨rfl, by rw [h.stop_eq, h'.stop_eq]⟩

end Laid

/-! ### Maximal runs -/

/-- `MaximalRuns p xs ps`: the pieces `ps` are the maximal runs of characters of `xs` that satisfy
`p`, in order. A character that fails `p` is passed over; a run is a non-empty block of
characters satisfying `p` laid from byte `a` to byte `b` and followed by the end or by a character
that fails `p`, and it gives the piece of its characters from `a` to `b`. -/
inductive MaximalRuns (p : Char → Bool) : List (Char × Nat) → List Piece → Prop
  /-- No characters, no runs. -/
  | nil : MaximalRuns p [] []
  /-- A character outside `p` is skipped. -/
  | skip {x : Char × Nat} {xs : List (Char × Nat)} {ps : List Piece} :
      p x.1 = false → MaximalRuns p xs ps → MaximalRuns p (x :: xs) ps
  /-- A non-empty run inside `p`, not followed by another such character, then the runs of the rest.
  -/
  | run {a b : Nat} {r xs : List (Char × Nat)} {ps : List Piece} :
      r ≠ [] → (∀ y ∈ r, p y.1 = true) → (∀ y ∈ xs.head?, p y.1 = false) →
      Laid a r b → MaximalRuns p xs ps →
      MaximalRuns p (r ++ xs) (⟨String.ofList (r.map Prod.fst), a, b⟩ :: ps)

variable {p : Char → Bool}

/-- The piece of a run held last character first is the piece of its characters over the bytes
it takes. -/
theorem flushRun_reverse {r : List (Char × Nat)} {a b : Nat} (hne : r ≠ []) (h : Laid a r b) :
    flushRun r.reverse = [⟨String.ofList (r.map Prod.fst), a, b⟩] := by
  obtain ⟨init, x, rfl⟩ := List.eq_nil_or_concat' r |>.resolve_left hne
  obtain ⟨y, hy⟩ : ∃ y, (init ++ [x]).head? = some y := by
    cases init with
    | nil => exact ⟨x, rfl⟩
    | cons y _ => exact ⟨y, rfl⟩
  have hstart : y.2 = a := h.head_offset hy
  rw [List.reverse_append, List.reverse_singleton, List.singleton_append]
  simp only [flushRun, Piece.ofRun, List.reverse_cons, List.reverse_reverse, hy, Option.map_some,
    Option.getD_some, hstart, ← h.concat_end]

/-- A run that the next character, if any, ends is closed there. -/
theorem runsOf_of_head_false (cur : List (Char × Nat)) {xs : List (Char × Nat)}
    (hxs : ∀ y ∈ xs.head?, p y.1 = false) :
    runsOf p cur xs = flushRun cur ++ runsOf p [] xs := by
  cases xs with
  | nil => simp [runsOf, flushRun]
  | cons x xs =>
    have hx : p x.1 = false := hxs x rfl
    simp [runsOf, hx, flushRun]

/-- Characters that satisfy `p` are added to the current run. -/
theorem runsOf_append_of_all (cur : List (Char × Nat)) {r : List (Char × Nat)}
    (hr : ∀ y ∈ r, p y.1 = true) (xs : List (Char × Nat)) :
    runsOf p cur (r ++ xs) = runsOf p (r.reverse ++ cur) xs := by
  induction r generalizing cur with
  | nil => rfl
  | cons y r ih =>
    rw [List.cons_append, runsOf, if_pos (hr y List.mem_cons_self),
      ih _ fun z hz => hr z (List.mem_cons_of_mem y hz), List.reverse_cons, List.append_assoc]
    rfl

/-- The scan finds every decomposition into maximal runs: the pieces of one are the scan's. -/
theorem MaximalRuns.eq_runsOf {xs : List (Char × Nat)} {ps : List Piece}
    (h : MaximalRuns p xs ps) : ps = runsOf p [] xs := by
  induction h with
  | nil => rfl
  | @skip x xs ps hx _ ih =>
    rw [runsOf, if_neg (by simp [hx]), ih]
    rfl
  | @run a b r xs ps hne hr hxs hlaid _ ih =>
    rw [runsOf_append_of_all [] hr, List.append_nil, runsOf_of_head_false _ hxs,
      flushRun_reverse hne hlaid, ih]
    rfl

/-- The scan closes its runs at the right places: with the current run `cur` (last character
first, all satisfying `p`) in front of the characters still to read, it gives the maximal runs of
the whole. The induction is on the characters still to read. -/
theorem maximalRuns_runsOf (xs : List (Char × Nat)) :
    ∀ (cur : List (Char × Nat)) (a e : Nat), (∀ y ∈ cur, p y.1 = true) →
      Laid a (cur.reverse ++ xs) e → MaximalRuns p (cur.reverse ++ xs) (runsOf p cur xs) := by
  induction xs with
  | nil =>
    intro cur a e hcur hlaid
    rw [List.append_nil] at hlaid ⊢
    cases cur with
    | nil => exact .nil
    | cons y cur =>
      -- The run ends with the text.
      have hne : (y :: cur).reverse ≠ [] := by simp
      have hrun := @MaximalRuns.run p a e _ [] [] hne
        (fun z hz => hcur z (List.mem_reverse.1 hz)) (by simp) hlaid .nil
      rw [List.append_nil] at hrun
      rw [runsOf, ← List.reverse_reverse (y :: cur), flushRun_reverse hne hlaid,
        List.reverse_reverse]
      exact hrun
  | cons x xs ih =>
    intro cur a e hcur hlaid
    by_cases hx : p x.1 = true
    · -- The character extends the current run.
      rw [runsOf, if_pos hx]
      have hcur' : ∀ y ∈ x :: cur, p y.1 = true := by
        intro y hy
        rcases List.mem_cons.1 hy with rfl | hy
        · exact hx
        · exact hcur y hy
      have hrev : (x :: cur).reverse ++ xs = cur.reverse ++ x :: xs := by simp
      rw [← hrev] at hlaid ⊢
      exact ih (x :: cur) a e hcur' hlaid
    · -- The character closes the current run and is passed over.
      have hxf : p x.1 = false := by simpa using hx
      rw [runsOf, if_neg hx]
      obtain ⟨m, hrun, hrest⟩ := laid_append_iff.1 hlaid
      have hskip : MaximalRuns p (x :: xs) (runsOf p [] xs) :=
        .skip hxf (ih [] (m + x.1.utf8Size) e (by simp) (laid_cons_iff.1 hrest).2)
      cases cur with
      | nil => exact hskip
      | cons y cur =>
        have hne : (y :: cur).reverse ≠ [] := by simp
        rw [← List.reverse_reverse (y :: cur), flushRun_reverse hne hrun, List.reverse_reverse]
        exact .run hne (fun z hz => hcur z (List.mem_reverse.1 hz)) (by simpa using hxf) hrun
          hskip

/-- The pieces of a text are its maximal runs. -/
theorem maximalRuns_runs (p : Char → Bool) (s : String) :
    MaximalRuns p (withOffsets s) (Piece.runs p s) :=
  maximalRuns_runsOf (withOffsets s) [] 0 s.utf8ByteSize (by simp) (laid_withOffsets s)

/-- The pieces of a text are its maximal runs, and nothing else is. -/
theorem maximalRuns_iff (s : String) (ps : List Piece) :
    MaximalRuns p (withOffsets s) ps ↔ ps = Piece.runs p s := by
  constructor
  · exact MaximalRuns.eq_runsOf
  · rintro rfl
    exact maximalRuns_runs p s

/-! ### Where the pieces lie -/

namespace MaximalRuns

variable {xs : List (Char × Nat)} {ps : List Piece}

/-- The pieces of laid characters lie inside them, each taking at least one byte. -/
theorem bounds (h : MaximalRuns p xs ps) {o e : Nat} (hlaid : Laid o xs e) :
    ∀ q ∈ ps, o ≤ q.start ∧ q.start < q.stop ∧ q.stop ≤ e := by
  induction h generalizing o with
  | nil => simp
  | @skip x xs ps _ _ ih =>
    obtain ⟨-, hxs⟩ := laid_cons_iff.1 hlaid
    intro q hq
    have := ih hxs q hq
    omega
  | @run a b r xs ps hne _ _ hr _ ih =>
    obtain ⟨m, hrm, hxs⟩ := laid_append_iff.1 hlaid
    obtain ⟨rfl, rfl⟩ := hr.unique hrm hne
    have hab := hr.lt_of_ne_nil hne
    have hme := hxs.le
    intro q hq
    rcases List.mem_cons.1 hq with rfl | hq
    · exact ⟨Nat.le_refl _, hab, hme⟩
    · have := ih hxs q hq
      omega

/-- Each piece takes the bytes of its own characters. -/
theorem stop_sub_start (h : MaximalRuns p xs ps) {o e : Nat} (hlaid : Laid o xs e) :
    ∀ q ∈ ps, q.stop - q.start = q.text.utf8ByteSize := by
  induction h generalizing o with
  | nil => simp
  | @skip x xs ps _ _ ih => exact ih (laid_cons_iff.1 hlaid).2
  | @run a b r xs ps hne _ _ hr _ ih =>
    obtain ⟨m, -, hxs⟩ := laid_append_iff.1 hlaid
    intro q hq
    rcases List.mem_cons.1 hq with rfl | hq
    · dsimp only
      rw [hr.stop_eq, String.utf8ByteSize_ofList]
      omega
    · exact ih hxs q hq

/-- Each piece ends before the next one begins. -/
theorem pairwise (h : MaximalRuns p xs ps) {o e : Nat} (hlaid : Laid o xs e) :
    ps.Pairwise fun q q' => q.stop ≤ q'.start := by
  induction h generalizing o with
  | nil => exact .nil
  | @skip x xs ps _ _ ih => exact ih (laid_cons_iff.1 hlaid).2
  | @run a b r xs ps hne _ _ hr hrest ih =>
    obtain ⟨m, hrm, hxs⟩ := laid_append_iff.1 hlaid
    obtain ⟨-, rfl⟩ := hr.unique hrm hne
    exact List.pairwise_cons.2 ⟨fun q hq => (hrest.bounds hxs q hq).1, ih hxs⟩

/-- The characters whose offsets lie in a piece's bytes are the piece's characters: a byte range
of the text reads back the piece. -/
theorem filter_offsets (h : MaximalRuns p xs ps) {o e : Nat} (hlaid : Laid o xs e) :
    ∀ q ∈ ps, String.ofList ((xs.filter fun y =>
      decide (q.start ≤ y.2) && decide (y.2 < q.stop)).map Prod.fst) = q.text := by
  induction h generalizing o with
  | nil => simp
  | @skip x xs ps _ hrest ih =>
    obtain ⟨hx, hxs⟩ := laid_cons_iff.1 hlaid
    intro q hq
    -- The character passed over stands before every later piece.
    have hbefore : x.2 < q.start := by
      have := (hrest.bounds hxs q hq).1
      have := x.1.utf8Size_pos
      omega
    rw [List.filter_cons_of_neg (by simp [Nat.not_le.2 hbefore]), ih hxs q hq]
  | @run a b r xs ps hne _ _ hr hrest ih =>
    obtain ⟨m, hrm, hxs⟩ := laid_append_iff.1 hlaid
    obtain ⟨rfl, rfl⟩ := hr.unique hrm hne
    have hafter : ∀ q ∈ ps, ∀ y ∈ r, y.2 < q.start := fun q hq y hy =>
      Nat.lt_of_lt_of_le (hr.bounds hy).2 (hrest.bounds hxs q hq).1
    intro q hq
    rw [List.filter_append]
    rcases List.mem_cons.1 hq with rfl | hq
    · -- The run's own bytes hold the run and nothing after it.
      rw [List.filter_eq_self.2 fun y hy => by simp [hr.bounds hy],
        List.filter_eq_nil_iff.2 fun y hy => by simp [(hxs.bounds hy).1], List.append_nil]
    · rw [List.filter_eq_nil_iff.2 fun y hy => by simp [Nat.not_le.2 (hafter q hq y hy)],
        List.nil_append, ih hxs q hq]

end MaximalRuns

end ConceptQuery.Text
