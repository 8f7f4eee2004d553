import ConceptQuery.Proofs.SpanTree.Invariants

/-!
# Laminar spans: one concept per span, in any order

Insertion looks for a term's span along one path. In each list of siblings it stops at the
first sibling that does not sort before the term, and it goes below the sibling just before that
place only when that sibling contains the term. When the inserted spans are *laminar* (none is
empty, and at each position any two are nested or disjoint) this path reaches the concept of the
term's span whenever the tree has one, whatever order the terms came in
(`insertAmong_alternate_of_mem`). What makes it work is an invariant of the tree,
`SeparatedTree`: a concept and everything below it sort before every later sibling of the
concept. A term that partially overlaps a concept can break it, and then one span can end up on
two concepts.

So inserting laminar terms in any order groups them by span (`insertAll_groupsBySpan`): each
span of an input term is the span of exactly one concept, whose term is the first input term of
that span and whose writings are the texts of all input terms of that span, in input order. A
term inserted before a term that contains it stays beside it rather than below it: grouping by
span does not need the nesting to be found.

The grouping is kept as a statement about the labels of all concepts in preorder
(`LabelsGroup`), since a change deep in the tree replaces its ancestors but keeps their labels.
-/

namespace ConceptQuery

namespace Term

/-- Terms whose spans are not empty and, at each position, pairwise nested or disjoint. -/
def Laminar (ts : List Term) : Prop :=
  (∀ t ∈ ts, t.start < t.stop) ∧ ∀ a ∈ ts, ∀ b ∈ ts, a.NestedOrDisjoint b

/-- Being nested or disjoint is decided by containment both ways and the ranges. -/
instance (a b : Term) : Decidable (a.NestedOrDisjoint b) :=
  inferInstanceAs (Decidable (a.position = b.position →
    a.contains b = true ∨ b.contains a = true ∨ a.stop ≤ b.start ∨ b.stop ≤ a.start))

/-- Whether terms are laminar is decided pair by pair. -/
instance (ts : List Term) : Decidable (Laminar ts) :=
  inferInstanceAs (Decidable ((∀ t ∈ ts, t.start < t.stop) ∧ ∀ a ∈ ts, ∀ b ∈ ts, a.NestedOrDisjoint b))

/-- Below a span that sorts before a term without containing it, every non-empty span sorts
before the term too, when the two are nested or disjoint: the span ends before the term starts,
or lies at an earlier position. -/
theorem spanCmp_lt_of_not_contains {a d t : Term} (hat : a.spanCmp t = .lt)
    (hn : ¬a.contains t = true) (hlam : a.NestedOrDisjoint t) (had : a.contains d = true)
    (hd : d.start < d.stop) : d.spanCmp t = .lt := by
  unfold NestedOrDisjoint at hlam
  rw [contains_eq_true] at hn had hlam
  rw [contains_eq_true] at hlam
  rw [spanCmp_eq_lt] at hat ⊢
  omega

end Term

namespace Concept

/-! ### Separated trees -/

/-- `a` and everything below it sort before `b`. -/
def Precedes (a b : Concept) : Prop := ∀ d ∈ a.nodes, d.term.spanCmp b.term = .lt

/-- In every list of siblings, the top level included, a concept and everything below it sort
before every later sibling. -/
def SeparatedTree (cs : List Concept) : Prop :=
  cs.Pairwise Precedes ∧ ∀ n ∈ nodesAll cs, n.children.Pairwise Precedes

/-- Concepts are separated when the first and all below it precede the rest, and below it and among
the rest all are. -/
theorem separatedTree_cons {c : Concept} {rest : List Concept} :
    SeparatedTree (c :: rest) ↔
      (∀ r ∈ rest, Precedes c r) ∧ SeparatedTree c.children ∧ SeparatedTree rest := by
  simp only [SeparatedTree, forall_nodesAll_cons, List.pairwise_cons]
  tauto

/-- A concept that precedes another sorts before it. -/
theorem Precedes.spanCmp_lt {a b : Concept} (h : Precedes a b) :
    a.term.spanCmp b.term = .lt :=
  h a (mem_nodes_self a)

/-- Whether a concept precedes another reads only its term and what is below it. -/
theorem Precedes.of_term_children {a a' b : Concept} (h : Precedes a b) (ht : a'.term = a.term)
    (hc : a'.children = a.children) : Precedes a' b := by
  intro d hd
  rw [mem_nodes] at hd
  rcases hd with rfl | hd
  · rw [ht]
    exact h.spanCmp_lt
  · rw [hc] at hd
    exact h d (mem_nodes_of_mem_nodesAll_children hd)

/-- A concept of a nested tree contains everything below it. -/
theorem NestedTree.contains_of_mem_nodes {cs : List Concept} (h : NestedTree cs) {c n : Concept}
    (hc : c ∈ nodesAll cs) (hn : n ∈ c.nodes) : c.term.contains n.term = true := by
  rw [mem_nodes] at hn
  rcases hn with rfl | hn
  · exact Term.contains_refl _
  · exact (h.strictlyContains_of_mem hc hn).1

/-- Siblings after a place where insertion stops sort after the term. -/
theorem spanCmp_lt_of_stopsBefore {rest : List Concept} {t : Term}
    (hsep : rest.Pairwise Precedes) (hs : stopsBefore rest t = true) {r : Concept}
    (hr : r ∈ rest) : t.spanCmp r.term = .lt := by
  cases rest with
  | nil => simp at hr
  | cons h tl =>
    rw [stopsBefore_cons] at hs
    have hth : t.spanCmp h.term = .lt := Term.spanCmp_lt_of_gt hs
    rcases List.mem_cons.1 hr with rfl | hr
    · exact hth
    · exact Term.spanCmp_lt_trans hth ((List.pairwise_cons.1 hsep).1 r hr).spanCmp_lt

/-- Inserting a term keeps the tree separated, when the spans of the tree are not empty and each
is nested with the term's or disjoint from it. -/
theorem separatedTree_insertAmong {cs : List Concept} {t : Term} (hsep : SeparatedTree cs)
    (hnest : NestedTree cs)
    (hlam : ∀ n ∈ nodesAll cs, n.term.start < n.term.stop ∧ n.term.NestedOrDisjoint t) :
    SeparatedTree (insertAmong cs t).1 := by
  induction cs, t using insertAmong_induction with
  | nil t =>
    rw [insertAmong_nil]
    refine ⟨List.pairwise_singleton _ _, ?_⟩
    intro n hn
    simp only [nodesAll_singleton, nodes_leaf, List.mem_singleton] at hn
    subst hn
    exact List.Pairwise.nil
  | same c rest t hc =>
    rw [insertAmong_cons_same hc]
    obtain ⟨hr, hch, hrest⟩ := separatedTree_cons.1 hsep
    exact separatedTree_cons.2 ⟨fun r hr' => (hr r hr').of_term_children rfl rfl, hch, hrest⟩
  | before c rest t hc =>
    rw [insertAmong_cons_before hc]
    obtain ⟨hr, -, -⟩ := separatedTree_cons.1 hsep
    have htc : t.spanCmp c.term = .lt := Term.spanCmp_lt_of_gt hc
    refine separatedTree_cons.2 ⟨?_, ⟨List.Pairwise.nil, by simp⟩, hsep⟩
    intro r hr' d hd
    simp only [nodes_leaf, List.mem_singleton] at hd
    subst hd
    rcases List.mem_cons.1 hr' with rfl | hr'
    · exact htc
    · exact Term.spanCmp_lt_trans htc (hr r hr').spanCmp_lt
  | descend c rest t hc hs hct ih =>
    rw [insertAmong_cons_descend hc hs hct]
    obtain ⟨hr, hch, hrest⟩ := separatedTree_cons.1 hsep
    obtain ⟨-, hnch, -⟩ := nestedTree_cons.1 hnest
    have hlam' := forall_nodesAll_cons.1 hlam
    refine separatedTree_cons.2 ⟨?_, ih hch hnch hlam'.2.1, hrest⟩
    -- The concept gained the term below it, and the term sorts before every later sibling.
    intro r hr' d hd
    rw [mem_nodes] at hd
    rcases hd with rfl | hd
    · exact (hr r hr').spanCmp_lt
    · rcases term_mem_of_mem_nodesAll_insertAmong hd with hdt | hde
      · rw [hdt]
        exact spanCmp_lt_of_stopsBefore hsep.1.of_cons hs hr'
      · obtain ⟨e, he, hed⟩ := List.mem_map.1 hde
        rw [← hed]
        exact hr r hr' e (mem_nodes_of_mem_nodesAll_children he)
  | pass c rest t hc hn ih =>
    rw [insertAmong_cons_pass hc hn]
    obtain ⟨hr, hch, hrest⟩ := separatedTree_cons.1 hsep
    obtain ⟨-, -, hnrest⟩ := nestedTree_cons.1 hnest
    have hlam' := forall_nodesAll_cons.1 hlam
    -- Everything in and below `c` sorts before the term: either a later sibling already sorts
    -- no later than the term, or `c` does not contain the term and so ends before it.
    have hbelow : ∀ d ∈ c.nodes, d.term.spanCmp t = .lt := by
      intro d hd
      by_cases hs : stopsBefore rest t = true
      · have hnc : ¬c.term.contains t = true := fun hct => hn ⟨hs, hct⟩
        have hcd := hnest.contains_of_mem_nodes (mem_nodesAll_of_mem List.mem_cons_self) hd
        have hdn : d.term.start < d.term.stop :=
          (hlam d (mem_nodesAll_trans (mem_nodesAll_of_mem List.mem_cons_self) hd)).1
        exact Term.spanCmp_lt_of_not_contains hc hnc hlam'.1.2 hcd hdn
      · cases rest with
        | nil => exact absurd rfl hs
        | cons h tl =>
          rw [stopsBefore_cons] at hs
          exact Term.spanCmp_lt_of_lt_of_ne_gt (hr h List.mem_cons_self d hd) hs
    refine separatedTree_cons.2 ⟨?_, hch, ih hrest hnrest hlam'.2.2⟩
    intro x hx d hd
    rcases term_mem_of_mem_insertAmong hx with hxt | hxr
    · rw [hxt]
      exact hbelow d hd
    · obtain ⟨y, hy, hyx⟩ := List.mem_map.1 hxr
      rw [← hyx]
      exact hr y hy d hd

/-! ### Insertion finds the concept of a span -/

/-- In a separated, nested tree, inserting a term whose span some concept has reports an
alternate writing: the descent reaches that concept. -/
theorem insertAmong_alternate_of_mem {cs : List Concept} {t : Term} (hsep : SeparatedTree cs)
    (hnest : NestedTree cs) {n : Concept} (hn : n ∈ nodesAll cs) (hspan : n.term.span = t.span) :
    ∃ d, (insertAmong cs t).2 = .alternate d := by
  induction cs, t using insertAmong_induction with
  | nil t => simp at hn
  | same c rest t hc =>
    rw [insertAmong_cons_same hc]
    exact ⟨1, rfl⟩
  | before c rest t hc =>
    exfalso
    obtain ⟨hr, -, -⟩ := separatedTree_cons.1 hsep
    -- `c` sorts after the term, yet no later than the concept of its span.
    have hcn : c.term.spanCmp n.term ≠ .gt := by
      rw [nodesAll_cons, List.mem_append] at hn
      rcases hn with hn | hn
      · exact Term.spanCmp_ne_gt_of_contains
          (hnest.contains_of_mem_nodes (mem_nodesAll_of_mem List.mem_cons_self) hn)
      · obtain ⟨r, hr', hnr⟩ := mem_nodesAll.1 hn
        have hrn := hnest.contains_of_mem_nodes (mem_nodesAll_of_mem (List.mem_cons_of_mem c hr'))
          hnr
        rw [Term.spanCmp_lt_of_lt_of_ne_gt (hr r hr').spanCmp_lt
          (Term.spanCmp_ne_gt_of_contains hrn)]
        simp
    rw [Term.spanCmp_congr rfl hspan] at hcn
    exact hcn hc
  | descend c rest t hc hs hct ih =>
    obtain ⟨-, hch, hrest⟩ := separatedTree_cons.1 hsep
    obtain ⟨-, hnch, -⟩ := nestedTree_cons.1 hnest
    rw [mem_nodesAll_cons] at hn
    rcases hn with rfl | hn | hn
    · rw [Term.spanCmp_congr rfl hspan.symm, Term.spanCmp_self] at hc
      cases hc
    · obtain ⟨d, hd⟩ := ih hch hnch hn hspan
      rw [insertAmong_cons_descend hc hs hct, hd]
      exact ⟨d + 1, rfl⟩
    · -- A later sibling sorts after the term but no later than the concept of its span.
      exfalso
      obtain ⟨r, hr', hnr⟩ := mem_nodesAll.1 hn
      have htr := spanCmp_lt_of_stopsBefore hsep.1.of_cons hs hr'
      have hrn := hnest.contains_of_mem_nodes (mem_nodesAll_of_mem (List.mem_cons_of_mem c hr'))
        hnr
      apply Term.spanCmp_ne_gt_of_contains hrn
      rw [Term.spanCmp_congr rfl hspan]
      exact Term.spanCmp_gt_of_lt htr
  | pass c rest t hc hnot ih =>
    obtain ⟨hr, -, hrest⟩ := separatedTree_cons.1 hsep
    obtain ⟨-, -, hnrest⟩ := nestedTree_cons.1 hnest
    rw [mem_nodesAll_cons] at hn
    rcases hn with rfl | hn | hn
    · rw [Term.spanCmp_congr rfl hspan.symm, Term.spanCmp_self] at hc
      cases hc
    · -- The concept of the span is below `c`: then insertion would have gone below `c`.
      exfalso
      apply hnot
      have hcn := (hnest.strictlyContains_of_mem (mem_nodesAll_of_mem List.mem_cons_self) hn).1
      refine ⟨?_, by rwa [Term.contains_congr rfl hspan] at hcn⟩
      cases rest with
      | nil => rfl
      | cons h tl =>
        rw [stopsBefore_cons]
        have hnh := hr h List.mem_cons_self n (mem_nodes_of_mem_nodesAll_children hn)
        rw [Term.spanCmp_congr hspan rfl] at hnh
        exact Term.spanCmp_gt_of_lt hnh
    · obtain ⟨d, hd⟩ := ih hrest hnrest hn hspan
      rw [insertAmong_cons_pass hc hnot]
      exact ⟨d, hd⟩

/-! ### Labels grouped by span -/

/-- The labels of the concepts group the terms `seen` by span: no two labels share a span, every
term seen has the span of some label, and each label has the first term of its span among those
seen and, as alternates, the texts of the later ones, in order. -/
structure LabelsGroup (seen : List Term) (ls : List (Term × List String)) : Prop where
  /-- No two labels have one span. -/
  nodup : (ls.map (·.1.span)).Nodup
  /-- Each span seen has a label. -/
  covers : ∀ u ∈ seen, ∃ l ∈ ls, l.1.span = u.span
  /-- Each label is the first term seen of its span, with the texts of the others in order. -/
  holds : ∀ l ∈ ls, ∃ rest, seen.filter (·.sameSpan l.1) = l.1 :: rest ∧ l.2 = rest.map Term.text

/-- Every label has a term seen: the first of its span. -/
theorem LabelsGroup.fst_mem {seen : List Term} {ls : List (Term × List String)}
    (h : LabelsGroup seen ls) {l : Term × List String} (hl : l ∈ ls) : l.1 ∈ seen := by
  obtain ⟨rest, hf, -⟩ := h.holds l hl
  have : l.1 ∈ seen.filter (·.sameSpan l.1) := by
    rw [hf]
    exact List.mem_cons_self
  exact List.mem_of_mem_filter this

/-- When the labels are those of a tree, every term seen has a concept of its span. -/
theorem LabelsGroup.exists_node {seen : List Term} {cs : List Concept}
    (h : LabelsGroup seen ((nodesAll cs).map label)) {u : Term} (hu : u ∈ seen) :
    ∃ n ∈ nodesAll cs, n.term.span = u.span := by
  obtain ⟨l, hl, hlu⟩ := h.covers u hu
  obtain ⟨n, hn, rfl⟩ := List.mem_map.1 hl
  exact ⟨n, hn, hlu⟩

/-- The labels other than one do not have its span. -/
private theorem span_ne_of_nodup_middle {pre post : List (Term × List String)}
    {x : Term × List String} (h : ((pre ++ x :: post).map (·.1.span)).Nodup)
    {l : Term × List String} (hl : l ∈ pre ++ post) : l.1.span ≠ x.1.span := by
  rw [List.map_append, List.map_cons, List.nodup_middle, List.nodup_cons] at h
  intro he
  apply h.1
  rw [← List.map_append]
  exact List.mem_map.2 ⟨l, hl, he⟩

/-- A term of another span adds nothing to the terms of a span. -/
theorem filter_sameSpan_append_of_ne {seen : List Term} {t u : Term} (h : u.span ≠ t.span) :
    (seen ++ [t]).filter (·.sameSpan u) = seen.filter (·.sameSpan u) := by
  have ht : t.sameSpan u = false := by
    rw [← Bool.not_eq_true, Term.sameSpan_eq_true]
    exact fun he => h he.symm
  simp [ht]

/-- A term of the span comes last among the terms of that span. -/
theorem filter_sameSpan_append_of_eq {seen : List Term} {t u : Term} (h : u.span = t.span) :
    (seen ++ [t]).filter (·.sameSpan u) = seen.filter (·.sameSpan u) ++ [t] := by
  have ht : t.sameSpan u = true := Term.sameSpan_eq_true.2 h.symm
  simp [ht]

/-- Appending the text of a term to the label of its span keeps the grouping, the term now
seen. -/
theorem LabelsGroup.append_writing {seen : List Term} {pre post : List (Term × List String)}
    {u t : Term} {alts : List String} (h : LabelsGroup seen (pre ++ (u, alts) :: post))
    (hu : u.span = t.span) : LabelsGroup (seen ++ [t]) (pre ++ (u, alts ++ [t.text]) :: post) := by
  have hne : ∀ l ∈ pre ++ post, l.1.span ≠ t.span := fun l hl =>
    hu ▸ span_ne_of_nodup_middle h.nodup hl
  refine ⟨by simpa using h.nodup, ?_, ?_⟩
  · intro v hv
    rw [List.mem_append, List.mem_singleton] at hv
    rcases hv with hv | hv
    · obtain ⟨l, hl, hlv⟩ := h.covers v hv
      simp only [List.mem_append, List.mem_cons] at hl
      rcases hl with hl | hl | hl
      · exact ⟨l, by simp [hl], hlv⟩
      · rw [hl] at hlv
        exact ⟨(u, alts ++ [t.text]), by simp, hlv⟩
      · exact ⟨l, by simp [hl], hlv⟩
    · rw [hv]
      exact ⟨(u, alts ++ [t.text]), by simp, hu⟩
  · intro l hl
    simp only [List.mem_append, List.mem_cons] at hl
    rcases hl with hl | hl | hl
    · rw [filter_sameSpan_append_of_ne (hne l (List.mem_append_left _ hl))]
      exact h.holds l (by simp [hl])
    · -- The label of the term's span: its alternates gain the term's text.
      obtain ⟨rest, hf, ha⟩ := h.holds (u, alts) (by simp)
      have ha' : alts = rest.map Term.text := ha
      rw [hl]
      refine ⟨rest ++ [t], ?_, ?_⟩
      · rw [filter_sameSpan_append_of_eq hu]
        rw [hf]
        rfl
      · simp [ha']
    · rw [filter_sameSpan_append_of_ne (hne l (List.mem_append_right _ hl))]
      exact h.holds l (by simp [hl])

/-- A new label for a term of a span no label has keeps the grouping, the term now seen. -/
theorem LabelsGroup.insert_leaf {seen : List Term} {pre post : List (Term × List String)}
    {t : Term} (h : LabelsGroup seen (pre ++ post)) (hnew : ∀ l ∈ pre ++ post, l.1.span ≠ t.span) :
    LabelsGroup (seen ++ [t]) (pre ++ (t, []) :: post) := by
  refine ⟨?_, ?_, ?_⟩
  · rw [List.map_append, List.map_cons, List.nodup_middle, List.nodup_cons, ← List.map_append]
    refine ⟨fun ht => ?_, h.nodup⟩
    obtain ⟨l, hl, hlt⟩ := List.mem_map.1 ht
    exact hnew l hl hlt
  · intro v hv
    rw [List.mem_append, List.mem_singleton] at hv
    rcases hv with hv | hv
    · obtain ⟨l, hl, hlv⟩ := h.covers v hv
      rw [List.mem_append] at hl
      rcases hl with hl | hl
      · exact ⟨l, by simp [hl], hlv⟩
      · exact ⟨l, by simp [hl], hlv⟩
    · rw [hv]
      exact ⟨(t, []), by simp, rfl⟩
  · intro l hl
    simp only [List.mem_append, List.mem_cons] at hl
    rcases hl with hl | hl | hl
    · rw [filter_sameSpan_append_of_ne (hnew l (List.mem_append_left _ hl))]
      exact h.holds l (List.mem_append_left _ hl)
    · -- No term seen has the new span, or some label would have it.
      have hnone : seen.filter (·.sameSpan t) = [] := by
        rw [List.filter_eq_nil_iff]
        intro v hv hvt
        obtain ⟨l, hl, hlv⟩ := h.covers v hv
        exact hnew l hl (hlv.trans (Term.sameSpan_eq_true.1 hvt))
      rw [hl]
      refine ⟨[], ?_, rfl⟩
      rw [filter_sameSpan_append_of_eq rfl, hnone]
      rfl
    · rw [filter_sameSpan_append_of_ne (hnew l (List.mem_append_right _ hl))]
      exact h.holds l (List.mem_append_right _ hl)

/-! ### Runs of laminar insertions -/

/-- What a run of laminar insertions keeps, for the terms `seen` inserted so far: the tree is
separated and nested, and its labels group the terms by span. -/
structure Grouped (seen : List Term) (cs : List Concept) : Prop where
  /-- Every concept and all below it precede its later siblings. -/
  separated : SeparatedTree cs
  /-- Every concept strictly contains its children. -/
  nested : NestedTree cs
  /-- The labels of all nodes group the terms seen. -/
  labels : LabelsGroup seen ((nodesAll cs).map label)

/-- The empty tree is grouped over no terms. -/
theorem grouped_nil : Grouped [] [] :=
  ⟨⟨List.Pairwise.nil, by simp⟩, by simp [NestedTree], ⟨List.nodup_nil, by simp, by simp⟩⟩

/-- Every concept of a grouped tree has a term that was seen. -/
theorem Grouped.term_mem {seen : List Term} {cs : List Concept} (h : Grouped seen cs)
    {n : Concept} (hn : n ∈ nodesAll cs) : n.term ∈ seen :=
  h.labels.fst_mem (List.mem_map_of_mem hn)

/-- One laminar insertion keeps a tree grouped: a term of a span the tree has becomes a writing
of the concept of that span, and a term of a new span becomes a new concept. -/
theorem grouped_insertAmong {seen : List Term} {cs : List Concept} {t : Term}
    (h : Grouped seen cs) (hlam : ∀ u ∈ seen, u.start < u.stop ∧ u.NestedOrDisjoint t) :
    Grouped (seen ++ [t]) (insertAmong cs t).1 := by
  have hlam' : ∀ n ∈ nodesAll cs, n.term.start < n.term.stop ∧ n.term.NestedOrDisjoint t :=
    fun n hn => hlam n.term (h.term_mem hn)
  refine ⟨separatedTree_insertAmong h.separated h.nested hlam', nestedTree_insertAmong h.nested, ?_⟩
  have hlabels := h.labels
  by_cases hex : ∃ n ∈ nodesAll cs, n.term.span = t.span
  · obtain ⟨n, hn, hspan⟩ := hex
    obtain ⟨d, hd⟩ := insertAmong_alternate_of_mem h.separated h.nested hn hspan
    obtain ⟨pre, u, alts, post, hu, h1, h2⟩ :=
      (insertAmong_alternate_iff.1 hd).labels_of_appendsWriting
    rw [h2]
    rw [h1] at hlabels
    exact hlabels.append_writing hu
  · have hnew : ∀ l ∈ (nodesAll cs).map label, l.1.span ≠ t.span := by
      intro l hl hlt
      obtain ⟨n, hn, rfl⟩ := List.mem_map.1 hl
      exact hex ⟨n, hn, hlt⟩
    rcases hp : (insertAmong cs t).2 with d | d
    · obtain ⟨pre, post, h1, h2⟩ := (insertAmong_newConcept_iff.1 hp).labels_of_insertsLeaf
      rw [h2]
      rw [h1] at hlabels hnew
      exact hlabels.insert_leaf hnew
    · -- An alternate writing would need a concept of the term's span.
      exfalso
      obtain ⟨pre, u, alts, post, hu, h1, -⟩ :=
        (insertAmong_alternate_iff.1 hp).labels_of_appendsWriting
      exact hnew (u, alts) (by rw [h1]; simp) hu

end Concept

namespace SpanTree

open ConceptQuery.Concept

/-- Laminar insertions keep a tree grouped, for the terms seen before and those inserted. -/
theorem grouped_insertAll {seen : List Term} {tree : SpanTree} (h : Grouped seen tree.concepts)
    (ts : List Term) (hlam : Term.Laminar (seen ++ ts)) :
    Grouped (seen ++ ts) (tree.insertAll ts).concepts := by
  induction ts generalizing seen tree with
  | nil => simpa using h
  | cons t ts ih =>
    have hstep : Grouped (seen ++ [t]) (tree.insert t).1.concepts := by
      rw [insert_concepts]
      refine grouped_insertAmong h fun u hu => ⟨hlam.1 u (by simp [hu]), ?_⟩
      exact hlam.2 u (by simp [hu]) t (by simp)
    have hrun := ih hstep (by simpa using hlam)
    rw [insertAll_cons]
    simpa using hrun

/-- The tree groups `terms` by span: each span of a term is the span of exactly one concept,
whose term is the first term of that span and whose writings are the texts of all terms of that
span, in order; so the tree has as many concepts as there are distinct spans. -/
def GroupsBySpan (terms : List Term) (tree : SpanTree) : Prop :=
  (∀ t ∈ terms, (nodesAll tree.concepts).countP (fun n => n.term.sameSpan t) = 1) ∧
    (∀ n ∈ nodesAll tree.concepts,
      (terms.filter (·.sameSpan n.term)).head? = some n.term ∧
        n.writings = (terms.filter (·.sameSpan n.term)).map Term.text) ∧
    tree.conceptCount = (terms.map Term.span).dedup.length

/-- Labels that group the terms by span say that the tree groups them. -/
theorem groupsBySpan_of_labelsGroup {terms : List Term} {tree : SpanTree}
    (h : LabelsGroup terms ((nodesAll tree.concepts).map label)) : tree.GroupsBySpan terms := by
  have hspans : ((nodesAll tree.concepts).map (·.term.span)).Nodup := by
    have := h.nodup
    rw [List.map_map] at this
    exact this
  have hmem : ∀ n ∈ nodesAll tree.concepts, n.term ∈ terms :=
    fun n hn => h.fst_mem (List.mem_map_of_mem hn)
  refine ⟨?_, ?_, ?_⟩
  · -- Exactly one concept per span: the spans of the concepts have no repeat.
    intro t ht
    obtain ⟨n, hn, hnt⟩ := h.exists_node ht
    have hcount := List.count_eq_one_of_mem hspans (List.mem_map_of_mem hn)
    rw [List.count, List.countP_map] at hcount
    rw [← hcount]
    apply List.countP_congr
    intro m _
    simp only [Function.comp, beq_iff_eq, Term.sameSpan_eq_true]
    exact ⟨fun hm => hm.trans hnt.symm, fun hm => hm.trans hnt⟩
  · intro n hn
    obtain ⟨rest, hf, ha⟩ := h.holds (label n) (List.mem_map_of_mem hn)
    simp only [label] at hf ha
    rw [hf]
    exact ⟨rfl, by simp [writings, ha]⟩
  · -- As many concepts as spans: the spans of the concepts are the distinct spans of the terms.
    have hperm : ((nodesAll tree.concepts).map (·.term.span)).Perm (terms.map Term.span).dedup := by
      rw [List.perm_ext_iff_of_nodup hspans (List.nodup_dedup _)]
      intro s
      rw [List.mem_dedup]
      constructor
      · intro hs
        obtain ⟨n, hn, rfl⟩ := List.mem_map.1 hs
        exact List.mem_map_of_mem (hmem n hn)
      · intro hs
        obtain ⟨u, hu, rfl⟩ := List.mem_map.1 hs
        obtain ⟨n, hn, hnu⟩ := h.exists_node hu
        exact List.mem_map.2 ⟨n, hn, hnu⟩
    rw [conceptCount, countAll_eq_length_nodesAll, ← hperm.length_eq, List.length_map]

/-- Terms with laminar spans, inserted one at a time into the empty tree in any order, are
grouped by span: one concept per distinct span, holding the first term of the span and the
texts of all its terms in order. -/
theorem insertAll_groupsBySpan (terms : List Term) (h : Term.Laminar terms) :
    (empty.insertAll terms).GroupsBySpan terms := by
  have hrun : Grouped ([] ++ terms) (empty.insertAll terms).concepts :=
    grouped_insertAll grouped_nil terms (by simpa using h)
  exact groupsBySpan_of_labelsGroup (by simpa using hrun.labels)

/-- Nested spans inserted in a rotated order, with a second writing of one span coming last,
are grouped by span. -/
theorem insertAll_groupsBySpan_rotated :
    let ts : List Term := [⟨"e", 7, 14, 0⟩, ⟨"g", 10, 11, 0⟩, ⟨"h", 12, 13, 0⟩, ⟨"f", 15, 16, 0⟩,
      ⟨"c", 18, 19, 1⟩, ⟨"a", 0, 1, 0⟩, ⟨"b", 2, 17, 0⟩, ⟨"d", 5, 6, 0⟩, ⟨"E", 7, 14, 0⟩]
    Term.Laminar ts ∧ (empty.insertAll ts).GroupsBySpan ts :=
  ⟨by decide, insertAll_groupsBySpan _ (by decide)⟩

/-- A span inserted before a span that contains it stays beside it. -/
example : (empty.insertAll [⟨"wi", 0, 2, 0⟩, ⟨"wi-fi", 0, 5, 0⟩]).concepts.length = 2 := by
  decide

end SpanTree

end ConceptQuery
