import ConceptQuery.Proofs.Analysis.Stop
import ConceptQuery.Proofs.Text.Runs
import ConceptQuery.Proofs.SpanTree.Build

/-!
# Compounds and their parts

The word delimiter splits a compound token into the maximal alphanumeric runs of its text. Read
as terms, the stream it gives is the stream before it with every compound term followed, or
replaced, by one term for each run: the run's characters, its bytes shifted to the compound's
start, and the compound's position (`collect_wordDelimiter`). A term whose text has no run, or is
one run from end to end, stays as it is.

**Positions.** The first token the filter emits for a compound carries the compound's increment
and every other one stacks on it with an increment of zero, whichever of the compound and its
first part comes first; so every part lands on the compound's position and the terms after it
keep theirs (`TokenFilter.collectFrom_delimit_append`, one token at a time).

**Texts and spans.** The runs are the maximal runs of `Text.maximalRuns_iff`, and the characters
whose offsets lie in a run's bytes are the run's own (`Text.MaximalRuns.filter_offsets`), so
cutting the compound's text at a run's bytes gives the run. When a compound's span is as long as
its text, its parts are disjoint, in order, and each lies strictly inside the compound
(`Term.parts_pairwise`, `Term.strictlyContains_of_mem_parts`). The compound and its parts then
have laminar spans, with the compound the smallest span around each part
(`Term.isParentSpan_of_mem_parts`), which is what a span tree needs to hold the parts as the
compound's children (`build_containmentTree`).
-/

namespace ConceptQuery

/-! ### Compound terms -/

namespace Term

/-- Whether a term is a compound: its text has alphanumeric runs and is not one run from end to
end. -/
def isCompound (t : Term) : Bool :=
  let runs := Text.Piece.runs Text.isAlphanumeric t.text
  !runs.isEmpty && runs.map (fun q => (q.start, q.stop)) != [(0, t.text.utf8ByteSize)]

/-- The parts of a term: for each maximal alphanumeric run of its text, the run's characters,
over the run's bytes shifted to the term's start, at the term's position. -/
def parts (t : Term) : List Term :=
  (Text.Piece.runs Text.isAlphanumeric t.text).map fun q =>
    ⟨q.text, t.start + q.start, t.start + q.stop, t.position⟩

/-- What a word delimiter makes of a term: a compound's parts, after the compound itself when it
is kept; any other term as it is. -/
def delimited (keep : Bool) (t : Term) : List Term :=
  if t.isCompound then (if keep then [t] else []) ++ t.parts else [t]

/-- The parts of a term are disjoint and in order. -/
theorem parts_pairwise (t : Term) : t.parts.Pairwise fun u v => u.stop ≤ v.start := by
  have h := (Text.maximalRuns_runs Text.isAlphanumeric t.text).pairwise
    (Text.laid_withOffsets t.text)
  rw [parts, List.pairwise_map]
  exact h.imp fun hqq' => Nat.add_le_add_left hqq' t.start

/-- A piece of a text that covers it from end to end is its only piece. -/
theorem runs_eq_singleton_of_covers {s : String} {q : Text.Piece}
    (hq : q ∈ Text.Piece.runs Text.isAlphanumeric s) (h0 : q.start = 0)
    (hs : q.stop = s.utf8ByteSize) : Text.Piece.runs Text.isAlphanumeric s = [q] := by
  have hruns := Text.maximalRuns_runs Text.isAlphanumeric s
  have hbounds := hruns.bounds (Text.laid_withOffsets s)
  have hpair := hruns.pairwise (Text.laid_withOffsets s)
  obtain ⟨l₁, l₂, hsplit⟩ := List.append_of_mem hq
  rw [hsplit, List.pairwise_append, List.pairwise_cons] at hpair
  -- A piece before it would end before byte zero, a piece after it start past the end.
  have hl₁ : l₁ = [] := List.eq_nil_iff_forall_not_mem.2 fun r hr => by
    have := hpair.2.2 r hr q List.mem_cons_self
    have := hbounds r (by rw [hsplit]; simp [hr])
    omega
  have hl₂ : l₂ = [] := List.eq_nil_iff_forall_not_mem.2 fun r hr => by
    have := hpair.2.1.1 r hr
    have := hbounds r (by rw [hsplit]; simp [hr])
    omega
  rw [hsplit, hl₁, hl₂]
  rfl

/-- When a compound's span is as long as its text, each of its parts lies strictly inside it. -/
theorem strictlyContains_of_mem_parts {t : Term} (hlen : t.stop - t.start = t.text.utf8ByteSize)
    (hc : t.isCompound = true) {u : Term} (hu : u ∈ t.parts) : t.StrictlyContains u := by
  obtain ⟨q, hq, rfl⟩ := List.mem_map.1 hu
  have hb := (Text.maximalRuns_runs Text.isAlphanumeric t.text).bounds
    (Text.laid_withOffsets t.text) q hq
  refine ⟨contains_eq_true.2 ⟨rfl, by simp, by simp only; omega⟩, fun hspan => ?_⟩
  -- A part with the compound's span would be a run over the whole text.
  simp only [span, Prod.mk.injEq, true_and] at hspan
  have hone := runs_eq_singleton_of_covers hq (by omega) (by omega)
  simp [isCompound, hone, show q.start = 0 by omega, show q.stop = t.text.utf8ByteSize by omega]
    at hc

/-- A compound has parts. -/
theorem parts_ne_nil {t : Term} (hc : t.isCompound = true) : t.parts ≠ [] := by
  simp only [isCompound, Bool.and_eq_true, Bool.not_eq_true', List.isEmpty_eq_false_iff] at hc
  simpa [parts] using hc.1

/-- Every part takes at least one byte. -/
theorem start_lt_stop_of_mem_parts {t u : Term} (hu : u ∈ t.parts) : u.start < u.stop := by
  obtain ⟨q, hq, rfl⟩ := List.mem_map.1 hu
  have hb := (Text.maximalRuns_runs Text.isAlphanumeric t.text).bounds
    (Text.laid_withOffsets t.text) q hq
  simp only
  omega

/-- Two parts of a term are one part, or lie apart. -/
theorem eq_or_apart_of_mem_parts {t u v : Term} (hu : u ∈ t.parts) (hv : v ∈ t.parts) :
    u = v ∨ u.stop ≤ v.start ∨ v.stop ≤ u.start := by
  by_cases huv : u = v
  · exact .inl huv
  · have : Std.Symm fun x y : Term => x.stop ≤ y.start ∨ y.stop ≤ x.start :=
      ⟨fun _ _ h => h.symm⟩
    have hsymm : t.parts.Pairwise fun x y => x.stop ≤ y.start ∨ y.stop ≤ x.start :=
      t.parts_pairwise.imp Or.inl
    exact .inr (hsymm.forall hu hv huv)

/-- A compound whose span is as long as its text, with its parts, has laminar spans, and the
compound is the smallest of them around each part: a span tree built from them holds the parts
as the compound's children. -/
theorem isParentSpan_of_mem_parts {t : Term} (hlen : t.stop - t.start = t.text.utf8ByteSize)
    (hc : t.isCompound = true) :
    Laminar (t :: t.parts) ∧ ∀ u ∈ t.parts, IsParentSpan (t :: t.parts) t u := by
  have hsc : ∀ u ∈ t.parts, t.StrictlyContains u := fun u hu =>
    strictlyContains_of_mem_parts hlen hc hu
  -- No part lies strictly inside another: they are apart.
  have hnot : ∀ u ∈ t.parts, ∀ w ∈ t.parts, ¬w.StrictlyContains u := by
    rintro u hu w hw ⟨hwu, hne⟩
    rw [contains_eq_true] at hwu
    have := start_lt_stop_of_mem_parts hu
    have := start_lt_stop_of_mem_parts hw
    rcases eq_or_apart_of_mem_parts hw hu with rfl | h | h
    · exact hne rfl
    · omega
    · omega
  refine ⟨⟨fun x hx => ?_, fun a ha b hb _ => ?_⟩, fun u hu => ⟨hsc u hu, fun w hw hwu => ?_⟩⟩
  · rcases List.mem_cons.1 hx with rfl | hx
    · obtain ⟨u, hu⟩ := List.exists_mem_of_ne_nil _ (parts_ne_nil hc)
      have := (contains_eq_true.1 (hsc u hu).1).2
      have := start_lt_stop_of_mem_parts hu
      omega
    · exact start_lt_stop_of_mem_parts hx
  · rcases List.mem_cons.1 ha with rfl | ha <;> rcases List.mem_cons.1 hb with rfl | hb
    · exact .inl (contains_refl _)
    · exact .inl (hsc b hb).1
    · exact .inr (.inl (hsc a ha).1)
    · rcases eq_or_apart_of_mem_parts ha hb with rfl | h | h
      · exact .inl (contains_refl _)
      · exact .inr (.inr (.inl h))
      · exact .inr (.inr (.inr h))
  · rcases List.mem_cons.1 hw with rfl | hw
    · exact contains_refl _
    · exact absurd hwu (hnot u hu w hw)

end Term

/-! ### The filter, token by token -/

namespace TokenFilter

/-- A token's part over bytes `[s, e)` of its text, as a term at position `q`: the characters
whose offsets lie in those bytes. -/
def partTerm (t : Token) (q : Nat) (range : Nat × Nat) : Term :=
  ⟨String.ofList (((Text.withOffsets t.text).filter fun y =>
      decide (range.1 ≤ y.2) && decide (y.2 < range.2)).map Prod.fst),
    t.start + range.1, t.start + range.2, q⟩

/-- Cut at one of its runs' bytes, a text gives the run. -/
theorem partTerm_piece (t : Token) (q : Nat) {r : Text.Piece}
    (hr : r ∈ Text.Piece.runs Text.isAlphanumeric t.text) :
    partTerm t q (r.start, r.stop) = ⟨r.text, t.start + r.start, t.start + r.stop, q⟩ := by
  have h := (Text.maximalRuns_runs Text.isAlphanumeric t.text).filter_offsets
    (Text.laid_withOffsets t.text) r hr
  simp only [partTerm, h]

/-- The parts of a token stacked from a counter give their terms there, the first moving the
counter by its increment. -/
theorem collectFrom_partsOf_append {t : Token} (hs : t.stopped = false) (inc q : Nat)
    (runs : List (Nat × Nat)) (rest : List Token) (hinc : runs = [] → inc = 0) :
    Term.collectFrom q (partsOf t inc runs ++ rest) =
      runs.map (partTerm t (q + inc)) ++ Term.collectFrom (q + inc) rest := by
  induction runs generalizing inc q with
  | nil =>
    rw [hinc rfl]
    rfl
  | cons r runs ih =>
    obtain ⟨s, e⟩ := r
    rw [partsOf, List.cons_append,
      Term.collectFrom_cons_kept
        (t := ⟨_, t.position, t.start + s, t.start + e, t.stopped, inc⟩) hs,
      ih 0 (q + inc) (fun _ => rfl), Nat.add_zero, List.map_cons, List.cons_append]
    rfl

/-- How the filter reads a token: a stopped token or one that is no compound stays; a compound
gives its parts, after itself when it is kept. -/
theorem delimit_eq (keep : Bool) (t : Token) :
    delimit keep t =
      if t.stopped || !(Term.isCompound ⟨t.text, t.start, t.stop, 0⟩) then [t]
      else if keep then t :: partsOf t 0 (alphanumericRuns t.text)
      else partsOf t t.increment (alphanumericRuns t.text) := by
  simp only [delimit, Term.isCompound, alphanumericRuns, List.isEmpty_map]
  congr 1
  cases (Text.Piece.runs Text.isAlphanumeric t.text).isEmpty <;> simp

/-- One token of the stream, before the rest: its terms from the word delimiter are what the
delimiter makes of its own term, and the rest is read from the same counter as without the
filter. -/
theorem collectFrom_delimit_append (keep : Bool) (q : Nat) (t : Token) (rest : List Token) :
    Term.collectFrom q (delimit keep t ++ rest) =
      (if t.stopped then []
        else Term.delimited keep ⟨t.text, t.start, t.stop, q + t.increment⟩) ++
        Term.collectFrom (q + t.increment) rest := by
  rw [delimit_eq]
  cases hs : t.stopped with
  | true =>
    rw [Bool.true_or, if_pos rfl, List.singleton_append, Term.collectFrom_cons_stopped hs]
    rfl
  | false =>
    -- The compound test reads the text only, so it is the same for the token and its term.
    let u : Term := ⟨t.text, t.start, t.stop, q + t.increment⟩
    have hsame : Term.isCompound ⟨t.text, t.start, t.stop, 0⟩ = u.isCompound := rfl
    rw [Bool.false_or, hsame, if_neg Bool.false_ne_true, Term.delimited]
    cases hc : u.isCompound with
    | false =>
      rw [Bool.not_false, if_pos rfl, if_neg Bool.false_ne_true, List.singleton_append,
        Term.collectFrom_cons_kept hs]
      rfl
    | true =>
      rw [Bool.not_true, if_neg Bool.false_ne_true, if_pos rfl]
      have hparts : (alphanumericRuns t.text).map (partTerm t (q + t.increment)) = u.parts := by
        rw [alphanumericRuns, List.map_map, Term.parts]
        exact List.map_congr_left fun r hr => partTerm_piece t _ hr
      have hne : alphanumericRuns t.text ≠ [] := fun h =>
        Term.parts_ne_nil hc (by rw [← hparts, h, List.map_nil])
      cases keep with
      | true =>
        rw [if_pos rfl, List.cons_append, Term.collectFrom_cons_kept hs,
          collectFrom_partsOf_append hs 0 _ _ rest (fun _ => rfl), Nat.add_zero, hparts,
          if_pos rfl]
        rfl
      | false =>
        rw [if_neg Bool.false_ne_true, collectFrom_partsOf_append hs _ q _ rest
          (fun h => absurd h hne), hparts, if_neg Bool.false_ne_true, List.nil_append]

/-- Read as terms from any counter, the filtered stream is the stream with each term replaced by
what the delimiter makes of it. -/
theorem collectFrom_flatMap_delimit (keep : Bool) (q : Nat) (ts : List Token) :
    Term.collectFrom q (ts.flatMap (delimit keep)) =
      (Term.collectFrom q ts).flatMap (Term.delimited keep) := by
  induction ts generalizing q with
  | nil => rfl
  | cons t rest ih =>
    rw [List.flatMap_cons, collectFrom_delimit_append, ih]
    cases hs : t.stopped with
    | true => rw [Term.collectFrom_cons_stopped hs, if_pos rfl, List.nil_append]
    | false =>
      rw [Term.collectFrom_cons_kept hs, if_neg Bool.false_ne_true, List.flatMap_cons]

end TokenFilter

/-- The word delimiter, keeping compounds or not, turns the terms of a stream into the same
terms with each compound followed, or replaced, by its parts: one term per maximal alphanumeric
run of its text, with the run's characters, the run's bytes shifted to the compound's start and
the compound's position. The runs are the maximal runs of alphanumeric characters. When a
compound's span is as long as its text, its parts are disjoint, in order, and each lies strictly
inside the compound, which is the parent span of each of them. -/
theorem collect_wordDelimiter (keep : Bool) (ts : List Token) :
    Term.collect ((TokenFilter.wordDelimiter keep).apply ts) =
      (Term.collect ts).flatMap (Term.delimited keep) ∧
    (∀ s, Text.MaximalRuns Text.isAlphanumeric (Text.withOffsets s)
      (Text.Piece.runs Text.isAlphanumeric s)) ∧
    ∀ t : Term, t.stop - t.start = t.text.utf8ByteSize → t.isCompound = true →
      t.parts.Pairwise (fun u v => u.stop ≤ v.start) ∧
        (∀ u ∈ t.parts, t.StrictlyContains u) ∧ Term.Laminar (t :: t.parts) ∧
        ∀ u ∈ t.parts, Term.IsParentSpan (t :: t.parts) t u :=
  ⟨TokenFilter.collectFrom_flatMap_delimit keep 0 ts,
    Text.maximalRuns_runs Text.isAlphanumeric,
    fun _ hlen hc =>
      ⟨Term.parts_pairwise _, fun _ hu => Term.strictlyContains_of_mem_parts hlen hc hu,
        Term.isParentSpan_of_mem_parts hlen hc⟩⟩

/-- The compound `wi-fi` over bytes 2 to 7: its parts `wi` and `fi` lie inside it, apart, as its
children. -/
theorem collect_wordDelimiter_wifi :
    let t : Term := ⟨"wi-fi", 2, 7, 1⟩
    (t.stop - t.start = t.text.utf8ByteSize ∧ t.isCompound = true) ∧
      t.parts.Pairwise (fun u v => u.stop ≤ v.start) ∧
        (∀ u ∈ t.parts, t.StrictlyContains u) ∧ Term.Laminar (t :: t.parts) ∧
        ∀ u ∈ t.parts, Term.IsParentSpan (t :: t.parts) t u :=
  ⟨⟨rfl, by decide +kernel⟩, (collect_wordDelimiter true []).2.2 _ rfl (by decide +kernel)⟩

end ConceptQuery
