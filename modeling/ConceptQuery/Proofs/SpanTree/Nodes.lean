import Mathlib
import ConceptQuery.Query.SpanTree

/-!
# Spans, the concepts of a tree, and the branches of insertion

**Spans.** The span order of terms is lexicographic on position, start and stop, the stop taken
in reverse. `Term.spanCmp_eq_lt`, `Term.spanCmp_eq_eq` and `Term.contains_eq_true` read it as
arithmetic, and the order facts the tree needs (transitivity, a container sorts before what it
contains) are proved from them once; later files cite these facts and never unfold `spanCmp`.

**Concepts of a tree.** `Concept.nodes` lists a concept and everything below it in preorder, and
`Concept.nodesAll` does the same for a list of siblings. Every statement about all concepts of a
tree is a statement about `nodesAll`. `Concept.listInduction` is induction on such a list that
also descends into the children of its head.

**Insertion.** Inserting a term among siblings takes one of four branches at the first sibling:
the same span (an alternate writing), a sibling that sorts after the term (a new leaf before
it), the last sibling before the term when it contains the term (a descent into it), or none of
these (pass the sibling by). One equation per branch, and `Concept.insertAmong_induction`
follows the same branches.
-/

namespace ConceptQuery

namespace Term

/-- The span of a term: its position, start and stop. -/
def span (t : Term) : Nat × Nat × Nat := (t.position, t.start, t.stop)

/-- `a` contains `b` and their spans differ. -/
def StrictlyContains (a b : Term) : Prop := a.contains b = true ∧ a.span ≠ b.span

/-- Strict containment is decided by its two halves. -/
instance (a b : Term) : Decidable (a.StrictlyContains b) :=
  inferInstanceAs (Decidable (a.contains b = true ∧ a.span ≠ b.span))

/-- The condition on spans under which a tree groups every span in one place: at one position,
two spans are nested (one contains the other) or disjoint. -/
def NestedOrDisjoint (a b : Term) : Prop :=
  a.position = b.position →
    a.contains b = true ∨ b.contains a = true ∨ a.stop ≤ b.start ∨ b.stop ≤ a.start

/-! ### The span order as arithmetic -/

/-- Two spans are equal when their positions and both ends are. -/
theorem span_eq_span {a b : Term} :
    a.span = b.span ↔ a.position = b.position ∧ a.start = b.start ∧ a.stop = b.stop := by
  simp [span]

/-- A term sorts first by position, then by start, then by the later stop. -/
theorem spanCmp_eq_lt {a b : Term} :
    a.spanCmp b = .lt ↔
      a.position < b.position ∨
        a.position = b.position ∧ (a.start < b.start ∨ a.start = b.start ∧ b.stop < a.stop) := by
  simp only [spanCmp, Ordering.then_eq_lt, Nat.compare_eq_lt, Nat.compare_eq_eq]

/-- A term sorts last when the other sorts first: the order read backwards. -/
theorem spanCmp_eq_gt {a b : Term} :
    a.spanCmp b = .gt ↔
      b.position < a.position ∨
        a.position = b.position ∧ (b.start < a.start ∨ a.start = b.start ∧ a.stop < b.stop) := by
  simp only [spanCmp, Ordering.then_eq_gt, Nat.compare_eq_gt, Nat.compare_eq_eq]

/-- The span order ties exactly the terms of one span. -/
theorem spanCmp_eq_eq {a b : Term} : a.spanCmp b = .eq ↔ a.span = b.span := by
  simp only [spanCmp, Ordering.then_eq_eq, Nat.compare_eq_eq, span_eq_span]
  omega

/-- Containment is the same position and a range inside the other. -/
theorem contains_eq_true {a b : Term} :
    a.contains b = true ↔ a.position = b.position ∧ a.start ≤ b.start ∧ b.stop ≤ a.stop := by
  simp [contains, and_assoc]

/-- Two terms have the same span when their spans are equal. -/
theorem sameSpan_eq_true {a b : Term} : a.sameSpan b = true ↔ a.span = b.span := by
  simp [sameSpan, spanCmp_eq_eq]

/-! ### Order facts -/

/-- Every term ties with itself. -/
theorem spanCmp_self (a : Term) : a.spanCmp a = .eq := spanCmp_eq_eq.2 rfl

/-- The comparison reads the spans only. -/
theorem spanCmp_congr {a a' b b' : Term} (ha : a.span = a'.span) (hb : b.span = b'.span) :
    a.spanCmp b = a'.spanCmp b' := by
  simp only [span_eq_span] at ha hb
  simp only [spanCmp, ha, hb]

/-- Comparing the other way round swaps the outcome. -/
theorem spanCmp_swap (a b : Term) : b.spanCmp a = (a.spanCmp b).swap := by
  rcases h : a.spanCmp b
  · have := spanCmp_eq_lt.1 h
    exact spanCmp_eq_gt.2 (by omega)
  · exact spanCmp_eq_eq.2 (spanCmp_eq_eq.1 h).symm
  · have := spanCmp_eq_gt.1 h
    exact spanCmp_eq_lt.2 (by omega)

/-- Sorting strictly first is transitive. -/
theorem spanCmp_lt_trans {a b c : Term} (hab : a.spanCmp b = .lt) (hbc : b.spanCmp c = .lt) :
    a.spanCmp c = .lt := by
  rw [spanCmp_eq_lt] at *
  omega

/-- Sorting strictly first, then not after, is sorting strictly first. -/
theorem spanCmp_lt_of_lt_of_ne_gt {a b c : Term} (hab : a.spanCmp b = .lt)
    (hbc : b.spanCmp c ≠ .gt) : a.spanCmp c = .lt := by
  rw [spanCmp_eq_lt] at *
  rw [Ne, spanCmp_eq_gt] at hbc
  omega

/-- A term that sorts after another has the other sort before it. -/
theorem spanCmp_lt_of_gt {a b : Term} (h : a.spanCmp b = .gt) : b.spanCmp a = .lt := by
  rw [spanCmp_swap, h]
  rfl

/-- A term that sorts before another has the other sort after it. -/
theorem spanCmp_gt_of_lt {a b : Term} (h : a.spanCmp b = .lt) : b.spanCmp a = .gt := by
  rw [spanCmp_swap, h]
  rfl

/-- A container never sorts after what it contains. -/
theorem spanCmp_ne_gt_of_contains {a b : Term} (h : a.contains b = true) : a.spanCmp b ≠ .gt := by
  rw [contains_eq_true] at h
  rw [Ne, spanCmp_eq_gt]
  omega

/-- A strict container sorts before what it contains. -/
theorem StrictlyContains.spanCmp_lt {a b : Term} (h : a.StrictlyContains b) :
    a.spanCmp b = .lt := by
  obtain ⟨hc, hs⟩ := h
  rw [contains_eq_true] at hc
  rw [Ne, span_eq_span] at hs
  rw [Term.spanCmp_eq_lt]
  omega

/-- A container that sorts strictly first has another span, so it contains strictly. -/
theorem strictlyContains_of_lt {a b : Term} (hc : a.contains b = true) (h : a.spanCmp b = .lt) :
    a.StrictlyContains b := by
  refine ⟨hc, fun hs => ?_⟩
  rw [← spanCmp_eq_eq] at hs
  rw [hs] at h
  cases h

/-- Containment is transitive. -/
theorem contains_trans {a b c : Term} (hab : a.contains b = true) (hbc : b.contains c = true) :
    a.contains c = true := by
  rw [contains_eq_true] at *
  omega

/-- Every term contains itself. -/
theorem contains_refl (a : Term) : a.contains a = true := contains_eq_true.2 (by omega)

/-- A strict container of `b` strictly contains what `b` contains. -/
theorem StrictlyContains.trans_contains {a b c : Term} (hab : a.StrictlyContains b)
    (hbc : b.contains c = true) : a.StrictlyContains c := by
  obtain ⟨h1, h2⟩ := hab
  rw [contains_eq_true] at h1 hbc
  rw [Ne, span_eq_span] at h2
  refine ⟨contains_eq_true.2 (by omega), ?_⟩
  rw [Ne, span_eq_span]
  omega

/-- Containment reads the spans only. -/
theorem contains_congr {a a' b b' : Term} (ha : a.span = a'.span) (hb : b.span = b'.span) :
    a.contains b = a'.contains b' := by
  simp only [span_eq_span] at ha hb
  simp only [contains, ha, hb]

end Term

namespace Concept

/-! ### The concepts of a tree -/

mutual

/-- A concept and every concept below it, in preorder. -/
def nodes : Concept → List Concept
  | ⟨term, alts, children⟩ => ⟨term, alts, children⟩ :: nodesAll children

/-- Every concept in or below a list of siblings, in preorder. -/
def nodesAll : List Concept → List Concept
  | [] => []
  | c :: rest => nodes c ++ nodesAll rest

end

/-- The nodes of a concept are the concept, then the nodes below it. -/
@[simp] theorem nodes_eq (c : Concept) : c.nodes = c :: nodesAll c.children := by
  cases c; rfl

/-- No concepts have no nodes. -/
@[simp] theorem nodesAll_nil : nodesAll [] = [] := rfl

/-- The nodes of concepts are those of the first, then those of the rest. -/
@[simp] theorem nodesAll_cons (c : Concept) (rest : List Concept) :
    nodesAll (c :: rest) = c.nodes ++ nodesAll rest := rfl

/-- The nodes of two lists of concepts, one after the other. -/
@[simp] theorem nodesAll_append (xs ys : List Concept) :
    nodesAll (xs ++ ys) = nodesAll xs ++ nodesAll ys := by
  induction xs with
  | nil => rfl
  | cons c rest ih => simp [ih]

/-- The nodes of one concept alone are its own nodes. -/
@[simp] theorem nodesAll_singleton (c : Concept) : nodesAll [c] = c.nodes := by simp

/-- A node of a list of concepts is a node of one of them. -/
theorem mem_nodesAll {n : Concept} {cs : List Concept} :
    n ∈ nodesAll cs ↔ ∃ c ∈ cs, n ∈ c.nodes := by
  induction cs with
  | nil => simp
  | cons c rest ih =>
    rw [nodesAll_cons, List.mem_append, ih]
    simp only [List.mem_cons, exists_eq_or_imp]

/-- A concept is in and below itself: it is the concept or below one of its children. -/
theorem mem_nodes {n c : Concept} : n ∈ c.nodes ↔ n = c ∨ n ∈ nodesAll c.children := by
  rw [nodes_eq, List.mem_cons]

/-- A node of concepts is the first one, below it, or among the rest. -/
theorem mem_nodesAll_cons {n c : Concept} {rest : List Concept} :
    n ∈ nodesAll (c :: rest) ↔ n = c ∨ n ∈ nodesAll c.children ∨ n ∈ nodesAll rest := by
  rw [nodesAll_cons, List.mem_append, mem_nodes, or_assoc]

/-- A statement about every concept of a list splits into the head, what is below it, and the
rest. -/
theorem forall_nodesAll_cons {P : Concept → Prop} {c : Concept} {rest : List Concept} :
    (∀ n ∈ nodesAll (c :: rest), P n) ↔
      P c ∧ (∀ n ∈ nodesAll c.children, P n) ∧ ∀ n ∈ nodesAll rest, P n := by
  simp only [nodesAll_cons, nodes_eq, List.cons_append, List.mem_cons, List.mem_append,
    forall_eq, or_imp, forall_and]

/-- A concept is one of its own nodes. -/
theorem mem_nodes_self (c : Concept) : c ∈ c.nodes := by simp

/-- Each concept of a list is a node of it. -/
theorem mem_nodesAll_of_mem {c : Concept} {cs : List Concept} (h : c ∈ cs) : c ∈ nodesAll cs :=
  mem_nodesAll.2 ⟨c, h, mem_nodes_self c⟩

/-- A node below a concept is one of its nodes. -/
theorem mem_nodes_of_mem_nodesAll_children {c n : Concept} (h : n ∈ nodesAll c.children) :
    n ∈ c.nodes := by
  rw [nodes_eq]
  exact List.mem_cons_of_mem _ h

/-- A child of a concept is one of its nodes. -/
theorem mem_nodes_of_mem_children {c d : Concept} (h : d ∈ c.children) : d ∈ c.nodes :=
  mem_nodes_of_mem_nodesAll_children (mem_nodesAll_of_mem h)

/-- Induction on a list of siblings that also descends into the children of its head: the
recursion of every function on span trees. -/
theorem listInduction {P : List Concept → Prop} (nil : P [])
    (cons : ∀ c rest, P c.children → P rest → P (c :: rest)) (cs : List Concept) : P cs :=
  @Concept.rec_1 (fun c => P c.children) P (fun _ _ _ h => h) nil
    (fun c rest hc hrest => cons c rest hc hrest) cs

/-- What lies below a concept of a tree belongs to the tree. -/
theorem mem_nodesAll_trans {m n : Concept} {cs : List Concept} (hm : m ∈ nodesAll cs)
    (hn : n ∈ m.nodes) : n ∈ nodesAll cs := by
  induction cs using listInduction with
  | nil => simp at hm
  | cons c rest ihc ihr =>
    rw [nodesAll_cons, List.mem_append] at hm ⊢
    rcases hm with hm | hm
    · rw [mem_nodes] at hm
      rcases hm with rfl | hm
      · exact .inl hn
      · rw [nodes_eq]
        exact .inl (List.mem_cons_of_mem _ (ihc hm))
    · exact .inr (ihr hm)

/-- A concept is in its parent's list of everything below. -/
theorem mem_nodesAll_children_trans {m n : Concept} {cs : List Concept} (hm : m ∈ nodesAll cs)
    (hn : n ∈ m.children) : n ∈ nodesAll cs :=
  mem_nodesAll_trans hm (mem_nodes_of_mem_children hn)

/-- A leaf is its only node. -/
@[simp] theorem nodes_leaf (t : Term) : (leaf t).nodes = [leaf t] := rfl

/-- The term of a leaf is the term it was made of. -/
@[simp] theorem leaf_term (t : Term) : (leaf t).term = t := rfl

/-- A leaf has no children. -/
@[simp] theorem leaf_children (t : Term) : (leaf t).children = [] := rfl

/-- A leaf is written only as its term. -/
@[simp] theorem writings_leaf (t : Term) : (leaf t).writings = [t.text] := rfl

/-- Concepts in and below a tree, counted as the tree counts them. -/
theorem countAll_eq_length_nodesAll (cs : List Concept) : countAll cs = (nodesAll cs).length := by
  induction cs using listInduction with
  | nil => rfl
  | cons c rest ihc ihr =>
    cases c
    simp only [countAll, count, nodesAll_cons, nodes_eq, List.length_append, List.length_cons] at *
    omega

/-! ### The branches of insertion -/

/-- Inserting below a concept inserts among its children, one level deeper. -/
theorem insert_eq (c : Concept) (t : Term) :
    c.insert t =
      ({ c with children := (insertAmong c.children t).1 }, (insertAmong c.children t).2.nested) := by
  cases c; rfl

/-- A term inserted among no siblings becomes the one new leaf. -/
@[simp] theorem insertAmong_nil (t : Term) : insertAmong [] t = ([leaf t], .newConcept 1) := rfl

/-- A term of the first sibling's span becomes its alternate writing. -/
theorem insertAmong_cons_same {c : Concept} {rest : List Concept} {t : Term}
    (h : c.term.spanCmp t = .eq) :
    insertAmong (c :: rest) t =
      ({ c with alternates := c.alternates ++ [t.text] } :: rest, .alternate 1) := by
  rw [insertAmong, h]

/-- A term that sorts before the first sibling becomes a new leaf in front of it. -/
theorem insertAmong_cons_before {c : Concept} {rest : List Concept} {t : Term}
    (h : c.term.spanCmp t = .gt) :
    insertAmong (c :: rest) t = (leaf t :: c :: rest, .newConcept 1) := by
  rw [insertAmong, h]

/-- A term that sorts after the first sibling, lies inside it and stops before the next goes below
it. -/
theorem insertAmong_cons_descend {c : Concept} {rest : List Concept} {t : Term}
    (h : c.term.spanCmp t = .lt) (hs : stopsBefore rest t = true)
    (hc : c.term.contains t = true) :
    insertAmong (c :: rest) t =
      ({ c with children := (insertAmong c.children t).1 } :: rest,
        (insertAmong c.children t).2.nested) := by
  rw [insertAmong, h]
  simp [hs, hc, insert_eq]

/-- A term that sorts after the first sibling and does not go below it passes on to the next. -/
theorem insertAmong_cons_pass {c : Concept} {rest : List Concept} {t : Term}
    (h : c.term.spanCmp t = .lt) (hn : ¬(stopsBefore rest t = true ∧ c.term.contains t = true)) :
    insertAmong (c :: rest) t = (c :: (insertAmong rest t).1, (insertAmong rest t).2) := by
  rw [insertAmong, h]
  simp only [Bool.and_eq_true]
  rw [if_neg hn]

/-- With no following sibling a term always stops before it. -/
@[simp] theorem stopsBefore_nil (t : Term) : stopsBefore [] t = true := rfl

/-- A term stops before the following siblings when the next one sorts after it. -/
theorem stopsBefore_cons {d : Concept} {ds : List Concept} {t : Term} :
    stopsBefore (d :: ds) t = true ↔ d.term.spanCmp t = .gt := by
  simp [stopsBefore]

/-- Induction along the branches of `insertAmong`: a statement about inserting into a list
holds if it holds for the empty list, for the two branches that stop at the head, for a descent
into the head given it for the head's children, and for passing the head by given it for the
rest. -/
theorem insertAmong_induction {P : List Concept → Term → Prop}
    (nil : ∀ t, P [] t)
    (same : ∀ c rest t, c.term.spanCmp t = .eq → P (c :: rest) t)
    (before : ∀ c rest t, c.term.spanCmp t = .gt → P (c :: rest) t)
    (descend : ∀ c rest t, c.term.spanCmp t = .lt → stopsBefore rest t = true →
      c.term.contains t = true → P c.children t → P (c :: rest) t)
    (pass : ∀ c rest t, c.term.spanCmp t = .lt →
      ¬(stopsBefore rest t = true ∧ c.term.contains t = true) → P rest t → P (c :: rest) t)
    (cs : List Concept) (t : Term) : P cs t :=
  Concept.insertAmong.induct (fun c t => P c.children t) P (fun _ _ _ _ _ _ _ h => h) nil same
    before
    (fun c rest t h hb _ _ _ ih => by
      rw [Bool.and_eq_true] at hb
      exact descend c rest t h hb.1 hb.2 ih)
    (fun c rest t h hb _ _ _ ih => by
      rw [Bool.and_eq_true] at hb
      exact pass c rest t h hb ih)
    cs t

end Concept

end ConceptQuery
