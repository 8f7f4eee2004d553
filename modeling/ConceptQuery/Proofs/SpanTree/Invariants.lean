import ConceptQuery.Proofs.SpanTree.Change

/-!
# What insertion keeps

Whatever terms are inserted into a span tree, in whatever order and whatever their spans, the
tree keeps its shape:

* every list of siblings, the top level included, is strictly increasing by span
  (`SortedTree`), so no two siblings share a span;
* every concept strictly contains the span of each of its children (`NestedTree`), hence of
  everything below it (`NestedTree.strictlyContains_of_mem`), so a top-level concept and
  everything below it lie at one position;
* the writings of the tree are the texts inserted so far, each counted once.

Each is a step lemma about `insertAmong`, by induction along its branches, and a run lemma for
`SpanTree.insertAll`. `insertAll_shape` collects them for every sequence inserted into the empty
tree, together with the placement each insertion reports, read as the change it made.
-/

namespace ConceptQuery

namespace Concept

/-- Siblings strictly increasing by span. -/
def Sorted (cs : List Concept) : Prop := cs.Pairwise fun a b => a.term.spanCmp b.term = .lt

/-- Every list of siblings in the tree, the top level included, is strictly increasing by
span. -/
def SortedTree (cs : List Concept) : Prop := Sorted cs ∧ ∀ n ∈ nodesAll cs, Sorted n.children

/-- Every concept of the tree strictly contains the span of each of its children. -/
def NestedTree (cs : List Concept) : Prop :=
  ∀ n ∈ nodesAll cs, ∀ c ∈ n.children, n.term.StrictlyContains c.term

/-- No concepts are sorted trivially. -/
theorem sortedTree_nil : SortedTree [] := ⟨List.Pairwise.nil, by simp⟩

/-- Concepts are sorted when the first sorts before the rest and below it and among the rest all
are. -/
theorem sortedTree_cons {c : Concept} {rest : List Concept} :
    SortedTree (c :: rest) ↔
      (∀ r ∈ rest, c.term.spanCmp r.term = .lt) ∧ SortedTree c.children ∧ SortedTree rest := by
  simp only [SortedTree, Sorted, forall_nodesAll_cons, List.pairwise_cons]
  tauto

/-- Concepts are nested when the first strictly contains its children and below it and among the
rest all are. -/
theorem nestedTree_cons {c : Concept} {rest : List Concept} :
    NestedTree (c :: rest) ↔
      (∀ d ∈ c.children, c.term.StrictlyContains d.term) ∧ NestedTree c.children ∧
        NestedTree rest := by
  simp only [NestedTree, forall_nodesAll_cons]

/-! ### The terms after an insertion -/

/-- After an insertion, each top-level concept has the inserted term or the term of a
top-level concept before. -/
theorem term_mem_of_mem_insertAmong {cs : List Concept} {t : Term} {x : Concept}
    (h : x ∈ (insertAmong cs t).1) : x.term = t ∨ x.term ∈ cs.map term := by
  induction cs, t using insertAmong_induction generalizing x with
  | nil t =>
    rw [insertAmong_nil, List.mem_singleton] at h
    exact .inl (by rw [h, leaf_term])
  | same c rest t hc =>
    rw [insertAmong_cons_same hc, List.mem_cons] at h
    rcases h with rfl | h
    · exact .inr (List.mem_map.2 ⟨_, List.mem_cons_self, rfl⟩)
    · exact .inr (List.mem_map_of_mem (List.mem_cons_of_mem c h))
  | before c rest t hc =>
    rw [insertAmong_cons_before hc, List.mem_cons] at h
    rcases h with rfl | h
    · exact .inl (leaf_term t)
    · exact .inr (List.mem_map_of_mem h)
  | descend c rest t hc hs hct ih =>
    rw [insertAmong_cons_descend hc hs hct, List.mem_cons] at h
    rcases h with rfl | h
    · exact .inr (List.mem_map.2 ⟨_, List.mem_cons_self, rfl⟩)
    · exact .inr (List.mem_map_of_mem (List.mem_cons_of_mem c h))
  | pass c rest t hc hn ih =>
    rw [insertAmong_cons_pass hc hn, List.mem_cons] at h
    rcases h with rfl | h
    · exact .inr (List.mem_map.2 ⟨_, List.mem_cons_self, rfl⟩)
    · rcases ih h with h | h
      · exact .inl h
      · exact .inr (List.mem_cons_of_mem _ h)

/-- After an insertion, each concept of the tree has the inserted term or the term of a concept
before. -/
theorem term_mem_of_mem_nodesAll_insertAmong {cs : List Concept} {t : Term} {n : Concept}
    (h : n ∈ nodesAll (insertAmong cs t).1) : n.term = t ∨ n.term ∈ (nodesAll cs).map term := by
  have hd := insertAmong_describes cs t
  have hn : n.term ∈ (nodesAll (insertAmong cs t).1).map term := List.mem_map_of_mem h
  rcases hp : (insertAmong cs t).2 with d | d <;> rw [hp] at hd
  · exact List.mem_cons.1 (hd.terms_of_insertsLeaf.mem_iff.1 hn)
  · exact .inr (hd.terms_of_appendsWriting.mem_iff.1 hn)

/-! ### Order and nesting -/

/-- Insertion keeps every list of siblings strictly sorted by span. -/
theorem sortedTree_insertAmong {cs : List Concept} {t : Term} (h : SortedTree cs) :
    SortedTree (insertAmong cs t).1 := by
  induction cs, t using insertAmong_induction with
  | nil t => exact sortedTree_cons.2 ⟨by simp, by simpa using sortedTree_nil, sortedTree_nil⟩
  | same c rest t hc =>
    rw [insertAmong_cons_same hc]
    obtain ⟨hr, hch, hrest⟩ := sortedTree_cons.1 h
    exact sortedTree_cons.2 ⟨hr, hch, hrest⟩
  | before c rest t hc =>
    rw [insertAmong_cons_before hc]
    obtain ⟨hr, -, -⟩ := sortedTree_cons.1 h
    -- The term sorts before `c`, hence before everything after `c`.
    have htc : t.spanCmp c.term = .lt := Term.spanCmp_lt_of_gt hc
    refine sortedTree_cons.2 ⟨?_, by simpa using sortedTree_nil, h⟩
    intro r hr'
    rcases List.mem_cons.1 hr' with rfl | hr'
    · exact htc
    · exact Term.spanCmp_lt_trans htc (hr r hr')
  | descend c rest t hc hs hct ih =>
    rw [insertAmong_cons_descend hc hs hct]
    obtain ⟨hr, hch, hrest⟩ := sortedTree_cons.1 h
    exact sortedTree_cons.2 ⟨hr, ih hch, hrest⟩
  | pass c rest t hc hn ih =>
    rw [insertAmong_cons_pass hc hn]
    obtain ⟨hr, hch, hrest⟩ := sortedTree_cons.1 h
    refine sortedTree_cons.2 ⟨fun x hx => ?_, hch, ih hrest⟩
    rcases term_mem_of_mem_insertAmong hx with hxt | hxr
    · rw [hxt]
      exact hc
    · obtain ⟨y, hy, hyx⟩ := List.mem_map.1 hxr
      rw [← hyx]
      exact hr y hy

/-- Insertion keeps every concept strictly containing its children: a term is put below a
concept only when the concept contains it and sorts strictly before it. -/
theorem nestedTree_insertAmong {cs : List Concept} {t : Term} (h : NestedTree cs) :
    NestedTree (insertAmong cs t).1 := by
  induction cs, t using insertAmong_induction with
  | nil t => simp [NestedTree]
  | same c rest t hc =>
    rw [insertAmong_cons_same hc]
    obtain ⟨hd, hch, hrest⟩ := nestedTree_cons.1 h
    exact nestedTree_cons.2 ⟨hd, hch, hrest⟩
  | before c rest t hc =>
    rw [insertAmong_cons_before hc]
    exact nestedTree_cons.2 ⟨by simp, by simp [NestedTree], h⟩
  | descend c rest t hc hs hct ih =>
    rw [insertAmong_cons_descend hc hs hct]
    obtain ⟨hd, hch, hrest⟩ := nestedTree_cons.1 h
    refine nestedTree_cons.2 ⟨fun x hx => ?_, ih hch, hrest⟩
    rcases term_mem_of_mem_insertAmong hx with hxt | hxr
    · rw [hxt]
      exact Term.strictlyContains_of_lt hct hc
    · obtain ⟨y, hy, hyx⟩ := List.mem_map.1 hxr
      rw [← hyx]
      exact hd y hy
  | pass c rest t hc hn ih =>
    rw [insertAmong_cons_pass hc hn]
    obtain ⟨hd, hch, hrest⟩ := nestedTree_cons.1 h
    exact nestedTree_cons.2 ⟨hd, hch, ih hrest⟩

/-- In a nested tree a concept strictly contains everything below it. -/
theorem NestedTree.strictlyContains_of_mem {cs : List Concept} (h : NestedTree cs) {m n : Concept}
    (hm : m ∈ nodesAll cs) (hn : n ∈ nodesAll m.children) : m.term.StrictlyContains n.term := by
  induction cs using listInduction generalizing m with
  | nil => simp at hm
  | cons c rest ihc ihr =>
    obtain ⟨hd, hch, hrest⟩ := nestedTree_cons.1 h
    rw [mem_nodesAll_cons] at hm
    rcases hm with rfl | hm | hm
    · -- Below a child `d` of `m`: `m` strictly contains `d`, which contains all below it.
      obtain ⟨d, hd', hnd⟩ := mem_nodesAll.1 hn
      rw [mem_nodes] at hnd
      rcases hnd with rfl | hnd
      · exact hd n hd'
      · exact (hd d hd').trans_contains (ihc hch (mem_nodesAll_of_mem hd') hnd).1
    · exact ihc hch hm hn
    · exact ihr hrest hm hn

/-- In a nested tree a top-level concept and everything below it lie at one position. -/
theorem NestedTree.position_eq {cs : List Concept} (h : NestedTree cs) {c n : Concept}
    (hc : c ∈ cs) (hn : n ∈ c.nodes) : n.term.position = c.term.position := by
  rw [mem_nodes] at hn
  rcases hn with rfl | hn
  · rfl
  · exact ((Term.contains_eq_true.1
      (h.strictlyContains_of_mem (mem_nodesAll_of_mem hc) hn).1).1).symm

/-- One insertion adds the term's text once to the writings of the tree. -/
theorem writings_insertAmong (cs : List Concept) (t : Term) :
    ((nodesAll (insertAmong cs t).1).flatMap writings).Perm
      (t.text :: (nodesAll cs).flatMap writings) := by
  have hd := insertAmong_describes cs t
  rcases hp : (insertAmong cs t).2 with d | d <;> rw [hp] at hd
  · exact hd.writings_of_insertsLeaf
  · exact hd.writings_of_appendsWriting

end Concept

namespace SpanTree

open ConceptQuery.Concept

/-- Inserting no terms leaves the tree. -/
@[simp] theorem insertAll_nil (tree : SpanTree) : tree.insertAll [] = tree := rfl

/-- Inserting terms is inserting the first, then the rest. -/
@[simp] theorem insertAll_cons (tree : SpanTree) (t : Term) (ts : List Term) :
    tree.insertAll (t :: ts) = (tree.insert t).1.insertAll ts := rfl

/-- Inserting into a tree inserts among its top concepts. -/
@[simp] theorem insert_concepts (tree : SpanTree) (t : Term) :
    (tree.insert t).1.concepts = (insertAmong tree.concepts t).1 := rfl

/-- The placement of an insertion into a tree is that among its top concepts. -/
@[simp] theorem insert_placement (tree : SpanTree) (t : Term) :
    (tree.insert t).2 = (insertAmong tree.concepts t).2 := rfl

/-! ### Runs of insertions -/

/-- Inserting terms keeps a tree sorted at every level. -/
theorem sortedTree_insertAll {tree : SpanTree} (h : SortedTree tree.concepts)
    (terms : List Term) : SortedTree (tree.insertAll terms).concepts := by
  induction terms generalizing tree with
  | nil => exact h
  | cons t ts ih => exact ih (sortedTree_insertAmong h)

/-- Inserting terms keeps every concept strictly containing its children. -/
theorem nestedTree_insertAll {tree : SpanTree} (h : NestedTree tree.concepts)
    (terms : List Term) : NestedTree (tree.insertAll terms).concepts := by
  induction terms generalizing tree with
  | nil => exact h
  | cons t ts ih => exact ih (nestedTree_insertAmong h)

/-- A run of insertions adds the inserted texts to the writings, each once. -/
theorem writings_insertAll (tree : SpanTree) (terms : List Term) :
    ((nodesAll (tree.insertAll terms).concepts).flatMap writings).Perm
      ((nodesAll tree.concepts).flatMap writings ++ terms.map Term.text) := by
  induction terms generalizing tree with
  | nil => simp
  | cons t ts ih =>
    rw [insertAll_cons]
    refine (ih _).trans ?_
    have h := (writings_insertAmong tree.concepts t).append_right (ts.map Term.text)
    rw [insert_concepts]
    refine h.trans ?_
    simp only [List.map_cons, List.cons_append]
    exact List.perm_middle.symm

/-- Terms inserted one at a time into the empty tree, in any order and with any spans: every
list of siblings is strictly sorted by span, every concept strictly contains its children, a
top-level concept and everything below it lie at one position, the writings are the inserted
texts each once, and each next insertion reports an alternate writing at depth `d` exactly when
it appended the text to a concept of the term's span at depth `d`, and a new concept at depth
`d` exactly when it put a leaf of the term at depth `d`. -/
theorem insertAll_shape (terms : List Term) :
    let tree := empty.insertAll terms
    SortedTree tree.concepts ∧ NestedTree tree.concepts ∧
      (∀ c ∈ tree.concepts, ∀ n ∈ c.nodes, n.term.position = c.term.position) ∧
      ((nodesAll tree.concepts).flatMap writings).Perm (terms.map Term.text) ∧
      ∀ t d,
        ((tree.insert t).2 = .alternate d ↔
          ChangedAt (AppendsWriting t) d tree.concepts (tree.insert t).1.concepts) ∧
        ((tree.insert t).2 = .newConcept d ↔
          ChangedAt (InsertsLeaf t) d tree.concepts (tree.insert t).1.concepts) := by
  intro tree
  have hnested : NestedTree tree.concepts := nestedTree_insertAll (by simp [NestedTree, empty]) terms
  refine ⟨sortedTree_insertAll sortedTree_nil terms, hnested,
    fun c hc n hn => hnested.position_eq hc hn, ?_, fun t d => ?_⟩
  · have h := writings_insertAll empty terms
    rw [show nodesAll empty.concepts = [] from rfl, List.flatMap_nil, List.nil_append] at h
    exact h
  · rw [insert_placement, insert_concepts]
    exact ⟨insertAmong_alternate_iff, insertAmong_newConcept_iff⟩

end SpanTree

end ConceptQuery
