import ConceptQuery.Proofs.SpanTree.Build

/-!
# The order of the terms

**Building reads the order of the terms of each span only.** `SpanTree.build` sorts its terms
stably by span. A stable sort has one result for all rearrangements of its input that keep the
order of the terms of each span (`Term.eq_of_sameSpanOrder`: two lists in span order that hold
the same terms of each span in the same order are equal). So such a rearrangement builds the same
tree, whatever the spans, overlapping, empty or inverted (`build_eq_of_sameSpanOrder`); sorting
the terms first is one of them.

**Insertion in any order that puts containers first builds the same tree.** Inserting terms one
by one finds every nesting when each term comes after the terms that strictly contain it, not
only in span order: the tree stays layered (`layered_insertAll_of_containersFirst`), so it is the
containment tree of the spans (`insertAll_isContainmentTree`). The containment tree of a list of
terms is unique (`IsContainmentTree.unique`): the concept of each span has the first term of
that span and the texts of the others, and its children are the concepts whose smallest strict
container it is, in span order. So for laminar terms in such an order, insertion gives the built
tree (`insertAll_eq_build`), concepts, children, their order and the order of the alternates
alike.
-/

namespace ConceptQuery

namespace Term

/-! ### Rearrangements that keep the order of each span -/

/-- `terms'` holds the terms of `terms` with the terms of each span in the same order: it is
`terms` rearranged, keeping the relative order of the terms of equal spans. -/
def SameSpanOrder (terms' terms : List Term) : Prop :=
  ∀ s : Term, terms'.filter (·.sameSpan s) = terms.filter (·.sameSpan s)

/-- Every term has its own span. -/
theorem sameSpan_self (a : Term) : a.sameSpan a = true := sameSpan_eq_true.2 rfl

/-- Which terms have a span reads only the span. -/
theorem filter_sameSpan_congr (l : List Term) {s s' : Term} (h : s.span = s'.span) :
    l.filter (·.sameSpan s) = l.filter (·.sameSpan s') := by
  congr 1
  funext a
  simp only [sameSpan, spanCmp_congr rfl h]

/-- It is enough to compare the terms of the spans that occur: a span no term has selects none in
either list. -/
theorem sameSpanOrder_iff {terms' terms : List Term} :
    SameSpanOrder terms' terms ↔
      ∀ s ∈ terms' ++ terms, terms'.filter (·.sameSpan s) = terms.filter (·.sameSpan s) := by
  constructor
  · intro h s _
    exact h s
  · intro h s
    by_cases hs : ∃ u ∈ terms' ++ terms, u.span = s.span
    · obtain ⟨u, hu, hus⟩ := hs
      rw [← filter_sameSpan_congr terms' hus, ← filter_sameSpan_congr terms hus]
      exact h u hu
    · have hnone : ∀ l : List Term, (∀ a ∈ l, a ∈ terms' ++ terms) →
          l.filter (·.sameSpan s) = [] := by
        intro l hl
        rw [List.filter_eq_nil_iff]
        intro a ha has
        exact hs ⟨a, hl a ha, sameSpan_eq_true.1 has⟩
      rw [hnone terms' fun a ha => List.mem_append_left _ ha,
        hnone terms fun a ha => List.mem_append_right _ ha]

/-- Whether two lists order each span's terms alike is decided span by span. -/
instance (terms' terms : List Term) : Decidable (SameSpanOrder terms' terms) :=
  decidable_of_iff _ sameSpanOrder_iff.symm

/-- A rearrangement that keeps the order of each span has the same terms. -/
theorem SameSpanOrder.mem_iff {terms' terms : List Term} (h : SameSpanOrder terms' terms)
    (x : Term) : x ∈ terms' ↔ x ∈ terms := by
  have hx := h x
  constructor
  · intro hm
    have : x ∈ terms'.filter (·.sameSpan x) := List.mem_filter.2 ⟨hm, sameSpan_self x⟩
    rw [hx] at this
    exact List.mem_of_mem_filter this
  · intro hm
    have : x ∈ terms.filter (·.sameSpan x) := List.mem_filter.2 ⟨hm, sameSpan_self x⟩
    rw [← hx] at this
    exact List.mem_of_mem_filter this

/-- Sorting by span keeps the order of the terms of each span. -/
theorem sameSpanOrder_sortBySpan (terms : List Term) : SameSpanOrder (sortBySpan terms) terms :=
  filter_sortBySpan terms

/-- Two terms that each sort no later than the other have one span. -/
theorem span_eq_of_spanCmp_ne_gt {a b : Term} (hab : a.spanCmp b ≠ .gt) (hba : b.spanCmp a ≠ .gt) :
    a.span = b.span := by
  rw [Ne, spanCmp_eq_gt] at hab hba
  rw [span_eq_span]
  omega

/-- The first term of a list in span order sorts no later than any term of it. -/
theorem spanCmp_head_ne_gt {a x : Term} {l : List Term}
    (h : (a :: l).Pairwise fun a b => a.spanCmp b ≠ .gt) (hx : x ∈ a :: l) :
    a.spanCmp x ≠ .gt := by
  rcases List.mem_cons.1 hx with rfl | hx
  · rw [spanCmp_self]
    decide
  · exact (List.pairwise_cons.1 h).1 x hx

/-- Two lists in span order that hold the terms of each span in the same order are equal: a
stable sort by span has one result. Their first terms have one span, so each is the first term
of that span in both lists. -/
theorem eq_of_sameSpanOrder {l l' : List Term} (h : l.Pairwise fun a b => a.spanCmp b ≠ .gt)
    (h' : l'.Pairwise fun a b => a.spanCmp b ≠ .gt) (hs : SameSpanOrder l l') : l = l' := by
  induction l generalizing l' with
  | nil =>
    cases l' with
    | nil => rfl
    | cons b l' => simpa [sameSpan_self] using hs b
  | cons a l ih =>
    cases l' with
    | nil => simpa [sameSpan_self] using hs a
    | cons b l' =>
      have hab := spanCmp_head_ne_gt h ((hs.mem_iff b).2 List.mem_cons_self)
      have hba := spanCmp_head_ne_gt h' ((hs.mem_iff a).1 List.mem_cons_self)
      have hba' : b.sameSpan a = true := sameSpan_eq_true.2 (span_eq_of_spanCmp_ne_gt hab hba).symm
      have hfa := hs a
      simp only [List.filter_cons, sameSpan_self, hba', if_true] at hfa
      obtain ⟨rfl, -⟩ := List.cons.inj hfa
      -- The rest keep the order of each span: the first term is removed from its own span only.
      have hrest : SameSpanOrder l l' := by
        intro s
        have hss := hs s
        by_cases has : a.sameSpan s = true
        · simp only [List.filter_cons, has, if_true] at hss
          exact (List.cons.inj hss).2
        · simp only [List.filter_cons, has, Bool.false_eq_true, if_false] at hss
          exact hss
      rw [ih h.of_cons h'.of_cons hrest]

/-- Sorting two lists that hold the terms of each span in the same order gives one list. -/
theorem sortBySpan_eq_of_sameSpanOrder {terms' terms : List Term}
    (h : SameSpanOrder terms' terms) : sortBySpan terms' = sortBySpan terms := by
  refine eq_of_sameSpanOrder (pairwise_sortBySpan _) (pairwise_sortBySpan _) fun s => ?_
  rw [filter_sortBySpan, filter_sortBySpan, h s]

/-- Parenthood of spans reads only the spans. -/
theorem isParentSpan_congr {terms : List Term} {p p' s s' : Term} (hp : p.span = p'.span)
    (hs : s.span = s'.span) : IsParentSpan terms p s ↔ IsParentSpan terms p' s' := by
  simp only [IsParentSpan, strictlyContains_congr hp hs, strictlyContains_congr rfl hs,
    contains_congr rfl hp]

end Term

namespace Concept

/-- Two strictly sorted lists of siblings with the same concepts are equal. -/
theorem eq_of_sorted_of_mem_iff {cs cs' : List Concept} (h : Sorted cs) (h' : Sorted cs')
    (hm : ∀ c, c ∈ cs ↔ c ∈ cs') : cs = cs' := by
  have hnodup : ∀ {l : List Concept}, Sorted l → l.Nodup := fun hl =>
    hl.imp fun hab he => by
      subst he
      rw [Term.spanCmp_self] at hab
      cases hab
  refine List.Perm.eq_of_pairwise (fun a b _ _ hab hba => ?_) h h'
    ((List.perm_ext_iff_of_nodup (hnodup h) (hnodup h')).2 hm)
  rw [Term.spanCmp_gt_of_lt hab] at hba
  cases hba

/-- Concepts with the same term, alternates and children are equal. -/
theorem eq_of_term_alternates_children {c c' : Concept} (ht : c.term = c'.term)
    (ha : c.alternates = c'.alternates) (hc : c.children = c'.children) : c = c' := by
  cases c
  cases c'
  simp only at ht ha hc
  rw [ht, ha, hc]

end Concept

namespace SpanTree

open ConceptQuery.Concept

/-- Rearranging terms while keeping the order of the terms of each span builds the same tree,
whatever the spans; in particular the terms sorted by span build the tree of the terms. -/
theorem build_eq_of_sameSpanOrder (terms : List Term) :
    (∀ terms', Term.SameSpanOrder terms' terms → build terms' = build terms) ∧
      build (Term.sortBySpan terms) = build terms := by
  have hsame : ∀ terms', Term.SameSpanOrder terms' terms → build terms' = build terms :=
    fun terms' h => by rw [build, build, Term.sortBySpan_eq_of_sameSpanOrder h]
  exact ⟨hsame, hsame _ (Term.sameSpanOrder_sortBySpan terms)⟩

/-- Three levels of nested spans with a second writing of one span, rotated so that the two
writings keep their order, build the same tree. -/
theorem build_eq_of_sameSpanOrder_rotated :
    let ts : List Term := [⟨"a", 0, 1, 0⟩, ⟨"b", 2, 17, 0⟩, ⟨"c", 18, 19, 1⟩, ⟨"d", 5, 6, 0⟩,
      ⟨"e", 7, 14, 0⟩, ⟨"f", 15, 16, 0⟩, ⟨"g", 10, 11, 0⟩, ⟨"h", 12, 13, 0⟩, ⟨"E", 7, 14, 0⟩]
    Term.SameSpanOrder (ts.rotate 3) ts ∧ build (ts.rotate 3) = build ts :=
  have h : Term.SameSpanOrder _ _ := by decide
  ⟨h, (build_eq_of_sameSpanOrder _).1 _ h⟩

/-! ### The containment tree is unique -/

section Unique

variable {terms : List Term} {tree tree' : SpanTree}

/-- Every concept of a tree grouping terms by span has a term of the list. -/
theorem GroupsBySpan.term_mem (h : tree.GroupsBySpan terms) {n : Concept}
    (hn : n ∈ nodesAll tree.concepts) : n.term ∈ terms := by
  obtain ⟨rest, hrest⟩ := List.head?_eq_some_iff.1 (h.2.1 n hn).1
  have : n.term ∈ terms.filter (·.sameSpan n.term) := by
    rw [hrest]
    exact List.mem_cons_self
  exact List.mem_of_mem_filter this

/-- Every term of a tree grouping terms by span has a concept of its span. -/
theorem GroupsBySpan.exists_node (h : tree.GroupsBySpan terms) {u : Term} (hu : u ∈ terms) :
    ∃ n ∈ nodesAll tree.concepts, n.term.span = u.span := by
  have hpos : 0 < (nodesAll tree.concepts).countP fun n => n.term.sameSpan u := by
    rw [h.1 u hu]
    exact Nat.one_pos
  obtain ⟨n, hn, hnu⟩ := List.countP_pos_iff.1 hpos
  exact ⟨n, hn, Term.sameSpan_eq_true.1 hnu⟩

/-- Two trees grouping the same terms by span give the concepts of one span the same term and
the same alternates. -/
theorem GroupsBySpan.term_alternates_eq (h : tree.GroupsBySpan terms)
    (h' : tree'.GroupsBySpan terms) {n n' : Concept} (hn : n ∈ nodesAll tree.concepts)
    (hn' : n' ∈ nodesAll tree'.concepts) (hs : n.term.span = n'.term.span) :
    n.term = n'.term ∧ n.alternates = n'.alternates := by
  obtain ⟨hhead, hw⟩ := h.2.1 n hn
  obtain ⟨hhead', hw'⟩ := h'.2.1 n' hn'
  rw [Term.filter_sameSpan_congr terms hs] at hhead hw
  have hterm : n.term = n'.term := Option.some.inj (hhead.symm.trans hhead')
  refine ⟨hterm, ?_⟩
  have hwrit : n.term.text :: n.alternates = n'.term.text :: n'.alternates := hw.trans hw'.symm
  exact (List.cons.inj hwrit).2

/-- Of two containment trees of the same terms, the concepts of one span are equal: same term,
same alternates, and children that match one for one by span, by induction below the concept. -/
theorem IsContainmentTree.eq_of_span_eq (h : tree.IsContainmentTree terms)
    (h' : tree'.IsContainmentTree terms) (cs : List Concept) :
    ∀ n ∈ cs, n ∈ nodesAll tree.concepts → ∀ n' ∈ nodesAll tree'.concepts,
      n.term.span = n'.term.span → n = n' := by
  obtain ⟨hg, hsort, hpar, -⟩ := h
  obtain ⟨hg', hsort', hpar', -⟩ := h'
  induction cs using listInduction with
  | nil => simp
  | cons c rest ihc ihr =>
    intro n hn hnN n' hn' hs
    rcases List.mem_cons.1 hn with rfl | hn
    · obtain ⟨hterm, halts⟩ := hg.term_alternates_eq hg' hnN hn' hs
      refine eq_of_term_alternates_children hterm halts
        (eq_of_sorted_of_mem_iff (hsort.2 n hnN) (hsort'.2 n' hn') fun x => ⟨fun hx => ?_, fun hx => ?_⟩)
      · -- A child of `n`: the concept of its span in the other tree is a child of `n'`.
        have hxN := mem_nodesAll_children_trans hnN hx
        obtain ⟨x', hx', hxs⟩ := hg'.exists_node (hg.term_mem hxN)
        have hparent := (Term.isParentSpan_congr hs hxs.symm).1 ((hpar n hnN x hxN).1 hx)
        rw [ihc x hx hxN x' hx' hxs.symm]
        exact (hpar' n' hn' x' hx').2 hparent
      · -- A child of `n'`: the concept of its span in this tree is a child of `n`.
        have hxN' := mem_nodesAll_children_trans hn' hx
        obtain ⟨x₀, hx₀, hxs⟩ := hg.exists_node (hg'.term_mem hxN')
        have hparent := (Term.isParentSpan_congr hs.symm hxs.symm).1 ((hpar' n' hn' x hxN').1 hx)
        have hx₀c := (hpar n hnN x₀ hx₀).2 hparent
        rw [← ihc x₀ hx₀c hx₀ x hxN' hxs]
        exact hx₀c
    · exact ihr n hn hnN n' hn' hs

/-- The containment tree of a list of terms is unique: two trees that are both the containment
tree of the same terms are equal. -/
theorem IsContainmentTree.unique (h : tree.IsContainmentTree terms)
    (h' : tree'.IsContainmentTree terms) : tree = tree' := by
  have hnode := h.eq_of_span_eq h'
  obtain ⟨hg, hsort, -, htop⟩ := h
  obtain ⟨hg', hsort', -, htop'⟩ := h'
  -- The top-level concepts are those of the spans no term strictly contains, in both trees.
  have hconcepts : tree.concepts = tree'.concepts := by
    refine eq_of_sorted_of_mem_iff hsort.1 hsort'.1 fun c => ⟨fun hc => ?_, fun hc => ?_⟩
    · have hcN := mem_nodesAll_of_mem hc
      obtain ⟨c', hc', hcs⟩ := hg'.exists_node (hg.term_mem hcN)
      have hout := (htop c hcN).1 hc
      rw [hnode [c] c (List.mem_singleton_self c) hcN c' hc' hcs.symm]
      exact (htop' c' hc').2 fun u hu hus => hout u hu ((Term.strictlyContains_congr rfl hcs).1 hus)
    · have hcN' := mem_nodesAll_of_mem hc
      obtain ⟨c₀, hc₀, hcs⟩ := hg.exists_node (hg'.term_mem hcN')
      have hout := (htop' c hcN').1 hc
      rw [← hnode [c₀] c₀ (List.mem_singleton_self c₀) hc₀ c hcN' hcs]
      exact (htop c₀ hc₀).2 fun u hu hus => hout u hu ((Term.strictlyContains_congr rfl hcs).1 hus)
  cases tree with
  | mk cs => cases tree' with
    | mk cs' => exact congrArg SpanTree.mk hconcepts

end Unique

/-! ### Insertion with containers first -/

/-- Laminar terms inserted one at a time, each after the terms that strictly contain it, give
the containment tree of their spans. -/
theorem insertAll_isContainmentTree (terms : List Term) (h : Term.Laminar terms)
    (hfirst : Term.ContainersFirst terms) : (empty.insertAll terms).IsContainmentTree terms := by
  have hrun : Layered ([] ++ terms) (empty.insertAll terms).concepts :=
    layered_insertAll_of_containersFirst layered_nil terms (by simpa using h)
      (by simpa using hfirst)
  rw [List.nil_append] at hrun
  exact ⟨groupsBySpan_of_labelsGroup hrun.grouped.labels, hrun.sorted,
    fun p hp n hn => hrun.mem_children_iff h hp hn, fun n hn => hrun.mem_iff h hn⟩

/-- Being the containment tree of terms reads which terms there are and the order of each span,
which the sort keeps. -/
theorem IsContainmentTree.of_sortBySpan {terms : List Term} {tree : SpanTree}
    (h : tree.IsContainmentTree (Term.sortBySpan terms)) : tree.IsContainmentTree terms := by
  obtain ⟨hg, hs, hpar, htop⟩ := h
  refine ⟨groupsBySpan_of_sortBySpan hg, hs, fun p hp n hn => ?_, fun n hn => ?_⟩
  · rw [hpar p hp n hn, Term.isParentSpan_sortBySpan]
  · rw [htop n hn]
    simp only [(Term.perm_sortBySpan terms).mem_iff]

/-- Laminar terms inserted one at a time in any order that puts every term after the terms that
strictly contain it give exactly the built tree: the same concepts, children in the same order
and alternates in the same order. Both are the containment tree of the terms, which is unique. -/
theorem insertAll_eq_build (terms : List Term) (h : Term.Laminar terms)
    (hfirst : Term.ContainersFirst terms) : empty.insertAll terms = build terms := by
  have hbuilt : (build terms).IsContainmentTree terms :=
    IsContainmentTree.of_sortBySpan (insertAll_isContainmentTree (Term.sortBySpan terms)
      (Term.laminar_sortBySpan h) (Term.containersFirst_of_pairwise (Term.pairwise_sortBySpan terms)))
  exact (insertAll_isContainmentTree terms h hfirst).unique hbuilt

/-- Three levels of nested spans with a second writing of one span, each after its containers but
not in span order, inserted one by one, give the built tree. -/
theorem insertAll_eq_build_containersFirst :
    let ts : List Term := [⟨"c", 18, 19, 1⟩, ⟨"b", 2, 17, 0⟩, ⟨"f", 15, 16, 0⟩,
      ⟨"e", 7, 14, 0⟩, ⟨"a", 0, 1, 0⟩, ⟨"E", 7, 14, 0⟩, ⟨"h", 12, 13, 0⟩, ⟨"g", 10, 11, 0⟩,
      ⟨"d", 5, 6, 0⟩]
    Term.Laminar ts ∧ Term.ContainersFirst ts ∧ empty.insertAll ts = build ts :=
  ⟨by decide, by decide, insertAll_eq_build _ (by decide) (by decide)⟩

end SpanTree

end ConceptQuery
