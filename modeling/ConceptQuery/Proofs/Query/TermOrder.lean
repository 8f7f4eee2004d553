import ConceptQuery.Proofs.SpanTree.Nodes

/-!
# The orders on terms

Terms are compared in two ways. The span order `Term.spanCmp` reads position, start and stop,
the stop in reverse: it is a total preorder whose ties are exactly the terms of one span, and a
container never sorts after what it contains. The term order `Term.cmp` breaks the ties of the
span order by the texts, which makes it a total order whose only ties are equal terms. Both are
instances of the standard comparison classes, so the laws of the library (transitivity of `<`,
`=` and `≤`, antisymmetry) apply to them by name.

**Relations of spans.** Two non-empty spans at one position stand in exactly one of five
relations: the same span, one strictly containing the other (either way), a partial overlap, or
apart (`SpanRelation.existsUnique_holds`). The spans must not be empty: an empty span at the
start of another is both strictly contained in it and apart from it.

`Term.orders_and_spanRelations` gathers all of it.
-/

namespace ConceptQuery

/-- In a lawful comparison each outcome is transitive on its own. -/
theorem transCmp_same_outcome {α : Type} {cmp : α → α → Ordering} [Std.TransCmp cmp]
    {a b c : α} {o : Ordering} (hab : cmp a b = o) (hbc : cmp b c = o) : cmp a c = o := by
  cases o with
  | lt => exact Std.TransCmp.lt_trans hab hbc
  | eq => exact Std.TransCmp.eq_trans hab hbc
  | gt => exact Std.TransCmp.gt_trans hab hbc

namespace Term

/-! ### The span order -/

/-- Swapping the terms swaps the outcome of the span order. -/
instance : Std.OrientedCmp spanCmp where
  eq_swap {a b} := spanCmp_swap b a

/-- The span order is transitive: a total preorder. -/
instance : Std.TransCmp spanCmp where
  isLE_trans {a b c} hab hbc := by
    simp only [Ordering.isLE_iff_ne_gt, spanCmp_eq_gt] at *
    omega

/-- The ties of the span order are the pairs of one span. -/
theorem spanCmp_eq_eq_iff_sameSpan {a b : Term} : a.spanCmp b = .eq ↔ a.sameSpan b = true := by
  rw [spanCmp_eq_eq, sameSpan_eq_true]

/-- A container does not sort after what it contains, and sorts before it when their spans
differ. -/
theorem spanCmp_of_contains {a b : Term} (h : a.contains b = true) :
    a.spanCmp b ≠ .gt ∧ (a.sameSpan b = false → a.spanCmp b = .lt) := by
  refine ⟨spanCmp_ne_gt_of_contains h, fun hdiff => StrictlyContains.spanCmp_lt ⟨h, ?_⟩⟩
  intro hsame
  have htie := sameSpan_eq_true.2 hsame
  rw [hdiff] at htie
  cases htie

/-! ### The term order -/

/-- The term order is the span order refined by the texts. -/
theorem cmp_eq_compareLex : cmp = compareLex spanCmp (compareOn text) := rfl

/-- The term order is transitive. -/
instance : Std.TransCmp cmp := by
  rw [cmp_eq_compareLex]
  infer_instance

/-- The term order ties only equal terms. -/
instance : Std.LawfulEqCmp cmp where
  compare_self {a} := by
    simp [cmp, spanCmp_self]
  eq_of_compare {a b} h := by
    rw [cmp, Ordering.then_eq_eq, spanCmp_eq_eq, span_eq_span, Std.compare_eq_iff_eq] at h
    obtain ⟨⟨hposition, hstart, hstop⟩, htext⟩ := h
    cases a
    cases b
    simp only at hposition hstart hstop htext
    subst hposition hstart hstop htext
    rfl

/-! ### Partial overlaps -/

/-- A partial overlap is one position, ranges that meet, and neither containing the other. -/
theorem partiallyOverlaps_eq_true {a b : Term} :
    a.partiallyOverlaps b = true ↔
      a.position = b.position ∧ a.start < b.stop ∧ b.start < a.stop ∧ a.contains b = false ∧
        b.contains a = false := by
  simp [partiallyOverlaps, and_assoc]

/-- Partial overlap does not depend on the order of the two terms. -/
theorem partiallyOverlaps_comm (a b : Term) : a.partiallyOverlaps b = b.partiallyOverlaps a := by
  rw [Bool.eq_iff_iff, partiallyOverlaps_eq_true, partiallyOverlaps_eq_true]
  constructor
  all_goals
    rintro ⟨hposition, hleft, hright, hab, hba⟩
    exact ⟨hposition.symm, hright, hleft, hba, hab⟩

end Term

/-! ### The five relations of two spans -/

/-- How two spans at one position lie to each other. -/
inductive SpanRelation where
  /-- The same span. -/
  | same
  /-- The first strictly contains the second. -/
  | encloses
  /-- The second strictly contains the first. -/
  | enclosed
  /-- The spans overlap and neither contains the other. -/
  | overlaps
  /-- The spans share no byte. -/
  | apart
deriving DecidableEq, Repr

namespace SpanRelation

/-- Whether two terms stand in a relation, each read off the operations on terms. -/
def Holds : SpanRelation → Term → Term → Prop
  | same, a, b => a.sameSpan b = true
  | encloses, a, b => a.StrictlyContains b
  | enclosed, a, b => b.StrictlyContains a
  | overlaps, a, b => a.partiallyOverlaps b = true
  | apart, a, b => a.stop ≤ b.start ∨ b.stop ≤ a.start

/-- Whether a relation holds is decided by the operations it reads. -/
instance : (r : SpanRelation) → (a b : Term) → Decidable (r.Holds a b)
  | same, a, b => inferInstanceAs (Decidable (a.sameSpan b = true))
  | encloses, a, b => inferInstanceAs (Decidable (a.StrictlyContains b))
  | enclosed, a, b => inferInstanceAs (Decidable (b.StrictlyContains a))
  | overlaps, a, b => inferInstanceAs (Decidable (a.partiallyOverlaps b = true))
  | apart, a, b => inferInstanceAs (Decidable (a.stop ≤ b.start ∨ b.stop ≤ a.start))

variable {a b : Term}

/-- At one position some relation holds; a partial overlap is what is left when the spans are
neither the same, nor nested, nor apart. -/
theorem exists_holds (hposition : a.position = b.position) : ∃ r : SpanRelation, r.Holds a b := by
  by_cases hsame : a.sameSpan b = true
  · exact ⟨same, hsame⟩
  have hspan : a.span ≠ b.span := fun h => hsame (Term.sameSpan_eq_true.2 h)
  by_cases hab : a.contains b = true
  · exact ⟨encloses, hab, hspan⟩
  by_cases hba : b.contains a = true
  · exact ⟨enclosed, hba, Ne.symm hspan⟩
  by_cases happart : a.stop ≤ b.start ∨ b.stop ≤ a.start
  · exact ⟨apart, happart⟩
  · have hoverlap : a.start < b.stop ∧ b.start < a.stop := by omega
    exact ⟨overlaps, Term.partiallyOverlaps_eq_true.2 ⟨hposition, hoverlap.1, hoverlap.2,
      Bool.eq_false_iff.2 hab, Bool.eq_false_iff.2 hba⟩⟩

/-- Between non-empty spans no two relations hold at once. -/
theorem eq_of_holds (ha : a.start < a.stop) (hb : b.start < b.stop) {r r' : SpanRelation}
    (h : r.Holds a b) (h' : r'.Holds a b) : r = r' := by
  -- each relation is arithmetic on the two ranges, and the ranges decide which one it is
  cases r <;> cases r' <;>
    simp only [Holds, Term.sameSpan_eq_true, Term.StrictlyContains, Term.span_eq_span,
      Term.partiallyOverlaps_eq_true, Term.contains_eq_true, ne_eq, Bool.eq_false_iff]
      at h h' ⊢ <;>
    omega

/-- Two non-empty spans at one position stand in exactly one relation. -/
theorem existsUnique_holds (hposition : a.position = b.position) (ha : a.start < a.stop)
    (hb : b.start < b.stop) : ∃! r : SpanRelation, r.Holds a b := by
  obtain ⟨r, hr⟩ := exists_holds hposition
  exact ⟨r, hr, fun r' hr' => eq_of_holds ha hb hr' hr⟩

end SpanRelation

namespace Term

/-- The span order is a total preorder whose ties are the pairs of one span, and a container
does not sort after what it contains (before it, when the spans differ). The term order is a
total order whose ties are equal terms. Partial overlap is symmetric, and two non-empty spans at
one position stand in exactly one of the five relations. -/
theorem orders_and_spanRelations (a b c : Term) :
    a.spanCmp b = (b.spanCmp a).swap ∧
    (∀ o, a.spanCmp b = o → b.spanCmp c = o → a.spanCmp c = o) ∧
    (a.spanCmp b ≠ .gt → b.spanCmp c ≠ .gt → a.spanCmp c ≠ .gt) ∧
    (a.spanCmp b = .eq ↔ a.sameSpan b = true) ∧
    a.cmp b = (b.cmp a).swap ∧
    (∀ o, a.cmp b = o → b.cmp c = o → a.cmp c = o) ∧
    (a.cmp b ≠ .gt → b.cmp c ≠ .gt → a.cmp c ≠ .gt) ∧
    (a.cmp b = .eq ↔ a = b) ∧
    (a.contains b = true →
      a.spanCmp b ≠ .gt ∧ (a.sameSpan b = false → a.spanCmp b = .lt)) ∧
    a.partiallyOverlaps b = b.partiallyOverlaps a ∧
    (a.position = b.position → a.start < a.stop → b.start < b.stop →
      ∃! r : SpanRelation, r.Holds a b) :=
  ⟨Std.OrientedCmp.eq_swap, fun _ => transCmp_same_outcome, Std.TransCmp.le_trans,
    spanCmp_eq_eq_iff_sameSpan, Std.OrientedCmp.eq_swap, fun _ => transCmp_same_outcome,
    Std.TransCmp.le_trans, Std.LawfulEqCmp.compare_eq_iff_eq, spanCmp_of_contains,
    partiallyOverlaps_comm a b, SpanRelation.existsUnique_holds⟩

/-- A compound and one of its parts, two non-empty spans at one position, stand in exactly one
relation. -/
theorem orders_and_spanRelations_compound :
    (⟨"wi-fi", 2, 7, 1⟩ : Term).position = (⟨"fi", 5, 7, 1⟩ : Term).position ∧
      (⟨"wi-fi", 2, 7, 1⟩ : Term).start < (⟨"wi-fi", 2, 7, 1⟩ : Term).stop ∧
      (⟨"fi", 5, 7, 1⟩ : Term).start < (⟨"fi", 5, 7, 1⟩ : Term).stop ∧
      ∃! r : SpanRelation, r.Holds ⟨"wi-fi", 2, 7, 1⟩ ⟨"fi", 5, 7, 1⟩ := by
  obtain ⟨-, -, -, -, -, -, -, -, -, -, hrelation⟩ :=
    orders_and_spanRelations ⟨"wi-fi", 2, 7, 1⟩ ⟨"fi", 5, 7, 1⟩ ⟨"i-f", 3, 6, 1⟩
  exact ⟨rfl, by decide, by decide, hrelation rfl (by decide) (by decide)⟩

example : SpanRelation.encloses.Holds ⟨"wi-fi", 2, 7, 1⟩ ⟨"fi", 5, 7, 1⟩ := by decide

example : SpanRelation.overlaps.Holds ⟨"wi-fi", 2, 7, 1⟩ ⟨"fi-hot", 5, 11, 1⟩ := by decide

end Term

end ConceptQuery
