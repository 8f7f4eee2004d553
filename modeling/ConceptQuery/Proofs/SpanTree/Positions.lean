import ConceptQuery.Proofs.SpanTree.Build

/-!
# Where the writings of a tree come from, and flat trees

**Sources.** Whatever terms are inserted, in whatever order and with whatever spans, every term
has a concept of its span, and every writing of every concept is the text of a term of that
concept's span (`SpanTree.build_labelsFrom`). So a concept and the terms of its position are
tied both ways, overlaps and stacked parts included. The invariant is kept by each insertion
through the change it makes to the labels (`Concept.labelsFrom_insertAmong`).

**Flat trees.** When all terms at one position have one span (`Term.OneSpanPerPosition`), no
concept strictly contains another and insertion never goes below a concept
(`Concept.insertAmong_top`). The built tree is then *flat*: every concept is a leaf, the concepts
are sorted by span, and they group the terms by span (`SpanTree.build_flat`), in any order of
insertion.
-/

namespace ConceptQuery

namespace Term

/-- All terms at one position have one span. -/
def OneSpanPerPosition (ts : List Term) : Prop :=
  ∀ u ∈ ts, ∀ v ∈ ts, u.position = v.position → u.span = v.span

/-- Whether each position has one span is decided pair by pair. -/
instance (ts : List Term) : Decidable (OneSpanPerPosition ts) :=
  inferInstanceAs (Decidable (∀ u ∈ ts, ∀ v ∈ ts, u.position = v.position → u.span = v.span))

/-- Fewer terms still have one span per position. -/
theorem OneSpanPerPosition.subset {ts ts' : List Term} (h : OneSpanPerPosition ts)
    (hsub : ∀ u ∈ ts', u ∈ ts) : OneSpanPerPosition ts' :=
  fun u hu v hv hp => h u (hsub u hu) v (hsub v hv) hp

/-- With one span per position, a term contains another only when their spans are equal. -/
theorem OneSpanPerPosition.span_eq_of_contains {ts : List Term} (h : OneSpanPerPosition ts)
    {u v : Term} (hu : u ∈ ts) (hv : v ∈ ts) (hc : u.contains v = true) : u.span = v.span :=
  h u hu v hv (contains_eq_true.1 hc).1

/-- With one span per position, the terms of a term's span are the terms of its position. -/
theorem OneSpanPerPosition.filter_sameSpan {ts : List Term} (h : OneSpanPerPosition ts) {s : Term}
    (hs : s ∈ ts) : ts.filter (·.sameSpan s) = ts.filter (·.position == s.position) := by
  refine List.filter_congr fun u hu => Bool.eq_iff_iff.2 ?_
  rw [sameSpan_eq_true, beq_iff_eq]
  exact ⟨fun hspan => (span_eq_span.1 hspan).1, h u hu s hs⟩

/-- With one span per position, a term sorts before another only at an earlier position. -/
theorem OneSpanPerPosition.position_lt_of_spanCmp {ts : List Term} (h : OneSpanPerPosition ts)
    {u v : Term} (hu : u ∈ ts) (hv : v ∈ ts) (hlt : u.spanCmp v = .lt) : u.position < v.position := by
  rcases spanCmp_eq_lt.1 hlt with hpos | ⟨hpos, -⟩
  · exact hpos
  · -- At one position the spans are equal, and equal spans do not sort before each other.
    rw [spanCmp_eq_eq.2 (h u hu v hv hpos)] at hlt
    cases hlt

end Term

namespace Concept

/-! ### The sources of the writings -/

/-- The labels against the terms `seen` inserted so far: every term seen has the span of some
label, and every writing of a label is the text of a term seen with the label's span. -/
structure LabelsFrom (seen : List Term) (ls : List (Term × List String)) : Prop where
  /-- Each span seen has a label. -/
  covers : ∀ u ∈ seen, ∃ l ∈ ls, l.1.span = u.span
  /-- Each writing of a label is the text of a term seen over its span. -/
  sources : ∀ l ∈ ls, ∀ w ∈ l.1.text :: l.2, ∃ u ∈ seen, u.span = l.1.span ∧ u.text = w

/-- No concepts are labelled from no terms. -/
theorem labelsFrom_nil : LabelsFrom [] [] := ⟨by simp, by simp⟩

/-- The terms seen matter only through which terms they are. -/
theorem LabelsFrom.of_mem_iff {seen seen' : List Term} {ls : List (Term × List String)}
    (h : LabelsFrom seen ls) (hmem : ∀ u, u ∈ seen' ↔ u ∈ seen) : LabelsFrom seen' ls := by
  refine ⟨fun u hu => h.covers u ((hmem u).1 hu), fun l hl w hw => ?_⟩
  obtain ⟨u, hu, hspan, htext⟩ := h.sources l hl w hw
  exact ⟨u, (hmem u).2 hu, hspan, htext⟩

/-- A term seen before is still seen. -/
theorem LabelsFrom.source_append {seen : List Term} {ls : List (Term × List String)}
    (h : LabelsFrom seen ls) (t : Term) {l : Term × List String} (hl : l ∈ ls) {w : String}
    (hw : w ∈ l.1.text :: l.2) : ∃ u ∈ seen ++ [t], u.span = l.1.span ∧ u.text = w := by
  obtain ⟨u, hu, hspan, htext⟩ := h.sources l hl w hw
  exact ⟨u, List.mem_append_left _ hu, hspan, htext⟩

/-- Appending the text of a term to a label of its span keeps the labels' sources, the term now
seen. -/
theorem LabelsFrom.append_writing {seen : List Term} {pre post : List (Term × List String)}
    {u t : Term} {alts : List String} (h : LabelsFrom seen (pre ++ (u, alts) :: post))
    (hu : u.span = t.span) :
    LabelsFrom (seen ++ [t]) (pre ++ (u, alts ++ [t.text]) :: post) := by
  refine ⟨fun v hv => ?_, fun l hl w hw => ?_⟩
  · rw [List.mem_append, List.mem_singleton] at hv
    rcases hv with hv | hv
    · obtain ⟨l, hl, hlv⟩ := h.covers v hv
      simp only [List.mem_append, List.mem_cons] at hl
      rcases hl with hl | rfl | hl
      · exact ⟨l, by simp [hl], hlv⟩
      · exact ⟨(u, alts ++ [t.text]), by simp, hlv⟩
      · exact ⟨l, by simp [hl], hlv⟩
    · exact ⟨(u, alts ++ [t.text]), by simp, by rw [hv]; exact hu⟩
  · simp only [List.mem_append, List.mem_cons] at hl
    rcases hl with hl | rfl | hl
    · exact h.source_append t (by simp [hl]) hw
    · -- The label of the term's span: its new writing is the term's text.
      simp only [List.mem_cons, List.mem_append, List.not_mem_nil, or_false] at hw
      rcases hw with rfl | hw | rfl
      · exact h.source_append t (show (u, alts) ∈ pre ++ (u, alts) :: post by simp)
          List.mem_cons_self
      · exact h.source_append t (show (u, alts) ∈ pre ++ (u, alts) :: post by simp)
          (List.mem_cons_of_mem _ hw)
      · exact ⟨t, by simp, hu.symm, rfl⟩
    · exact h.source_append t (by simp [hl]) hw

/-- A new label of a term keeps the labels' sources, the term now seen. -/
theorem LabelsFrom.insert_leaf {seen : List Term} {pre post : List (Term × List String)}
    {t : Term} (h : LabelsFrom seen (pre ++ post)) :
    LabelsFrom (seen ++ [t]) (pre ++ (t, []) :: post) := by
  refine ⟨fun v hv => ?_, fun l hl w hw => ?_⟩
  · rw [List.mem_append, List.mem_singleton] at hv
    rcases hv with hv | rfl
    · obtain ⟨l, hl, hlv⟩ := h.covers v hv
      rw [List.mem_append] at hl
      rcases hl with hl | hl
      · exact ⟨l, by simp [hl], hlv⟩
      · exact ⟨l, by simp [hl], hlv⟩
    · exact ⟨(v, []), by simp, rfl⟩
  · simp only [List.mem_append, List.mem_cons] at hl
    rcases hl with hl | rfl | hl
    · exact h.source_append t (by simp [hl]) hw
    · rw [List.mem_singleton] at hw
      exact ⟨t, by simp, rfl, hw.symm⟩
    · exact h.source_append t (by simp [hl]) hw

/-- One insertion keeps the labels' sources, whatever the spans: the change it makes is an
appended writing of the term's span or a new leaf of the term. -/
theorem labelsFrom_insertAmong {seen : List Term} {cs : List Concept} {t : Term}
    (h : LabelsFrom seen ((nodesAll cs).map label)) :
    LabelsFrom (seen ++ [t]) ((nodesAll (insertAmong cs t).1).map label) := by
  rcases hp : (insertAmong cs t).2 with d | d
  · obtain ⟨pre, post, h1, h2⟩ := (insertAmong_newConcept_iff.1 hp).labels_of_insertsLeaf
    rw [h2]
    rw [h1] at h
    exact h.insert_leaf
  · obtain ⟨pre, u, alts, post, hu, h1, h2⟩ :=
      (insertAmong_alternate_iff.1 hp).labels_of_appendsWriting
    rw [h2]
    rw [h1] at h
    exact h.append_writing hu

/-! ### Insertion that stays at the top -/

/-- A change at depth one is a change of the siblings themselves. -/
theorem ChangedAt.step_of_depth_one {step : List Concept → List Concept → Prop}
    {cs cs' : List Concept} (h : ChangedAt step 1 cs cs') : step cs cs' := by
  rcases changedAt_iff.1 h with ⟨-, hs⟩ | ⟨d', _, _, _, _, hd, -, -, hx⟩
  · exact hs
  · -- Below a sibling the depth is at least two.
    obtain rfl : d' = 0 := by omega
    cases hx

/-- Inserting a term that no concept of the siblings strictly contains stays among the
siblings: it is an alternate writing or a new leaf there, never a descent. -/
theorem insertAmong_top {cs : List Concept} {t : Term}
    (h : ∀ c ∈ cs, c.term.contains t = true → c.term.span = t.span) :
    (insertAmong cs t).2 = .alternate 1 ∨ (insertAmong cs t).2 = .newConcept 1 := by
  induction cs, t using insertAmong_induction with
  | nil t => exact .inr rfl
  | same c rest t hc =>
    rw [insertAmong_cons_same hc]
    exact .inl rfl
  | before c rest t hc =>
    rw [insertAmong_cons_before hc]
    exact .inr rfl
  | descend c rest t hc hs hct ih =>
    -- A sibling that contains the term has its span, so it cannot sort before it.
    have hspan := h c List.mem_cons_self hct
    rw [Term.spanCmp_congr hspan rfl, Term.spanCmp_self] at hc
    cases hc
  | pass c rest t hc hn ih =>
    rw [insertAmong_cons_pass hc hn]
    exact ih fun d hd => h d (List.mem_cons_of_mem c hd)

/-! ### Flat trees -/

/-- A flat tree for the terms `seen`: every concept is a leaf, the concepts are sorted by span,
and their labels group the terms seen by span. -/
structure Flat (seen : List Term) (cs : List Concept) : Prop where
  /-- Every concept is a leaf. -/
  leaves : ∀ c ∈ cs, c.children = []
  /-- The concepts are sorted. -/
  sorted : Sorted cs
  /-- Their labels group the terms seen. -/
  labels : LabelsGroup seen (cs.map label)

/-- The empty tree is flat over no terms. -/
theorem flat_nil : Flat [] [] := ⟨by simp, List.Pairwise.nil, ⟨List.nodup_nil, by simp, by simp⟩⟩

/-- The concepts of a list of leaves are the leaves. -/
theorem nodesAll_of_leaves {cs : List Concept} (h : ∀ c ∈ cs, c.children = []) :
    nodesAll cs = cs := by
  induction cs with
  | nil => rfl
  | cons c rest ih =>
    rw [nodesAll_cons, nodes_eq, h c List.mem_cons_self, nodesAll_nil,
      ih fun d hd => h d (List.mem_cons_of_mem c hd), List.singleton_append]

/-- The nodes of a flat tree are its top concepts. -/
theorem Flat.nodesAll_eq {seen : List Term} {cs : List Concept} (h : Flat seen cs) :
    nodesAll cs = cs :=
  nodesAll_of_leaves h.leaves

/-- A flat tree is sorted at every level. -/
theorem Flat.sortedTree {seen : List Term} {cs : List Concept} (h : Flat seen cs) :
    SortedTree cs :=
  ⟨h.sorted, fun n hn => by rw [h.nodesAll_eq] at hn; rw [h.leaves n hn]; exact List.Pairwise.nil⟩

/-- A flat tree is nested trivially, having no children. -/
theorem Flat.nestedTree {seen : List Term} {cs : List Concept} (h : Flat seen cs) :
    NestedTree cs := by
  intro n hn c hc
  rw [h.nodesAll_eq] at hn
  rw [h.leaves n hn] at hc
  cases hc

/-- Leaves sorted by span are separated: a leaf is all of itself. -/
theorem Flat.separatedTree {seen : List Term} {cs : List Concept} (h : Flat seen cs) :
    SeparatedTree cs := by
  refine ⟨?_, fun n hn => ?_⟩
  · refine List.Pairwise.imp_of_mem ?_ h.sorted
    intro a b ha _ hab d hd
    rw [mem_nodes, h.leaves a ha] at hd
    rcases hd with rfl | hd
    · exact hab
    · simp at hd
  · rw [h.nodesAll_eq] at hn
    rw [h.leaves n hn]
    exact List.Pairwise.nil

/-- A leaf with an appended writing is still a leaf. -/
theorem AppendsWriting.leaves {t : Term} {cs cs' : List Concept} (h : AppendsWriting t cs cs')
    (hl : ∀ c ∈ cs, c.children = []) : ∀ c ∈ cs', c.children = [] := by
  obtain ⟨pre, c, post, -, rfl, rfl⟩ := h
  intro x hx
  simp only [List.mem_append, List.mem_cons] at hx
  rcases hx with hx | rfl | hx
  · exact hl x (by simp [hx])
  · exact hl c (by simp)
  · exact hl x (by simp [hx])

/-- Inserting a leaf among leaves leaves only leaves. -/
theorem InsertsLeaf.leaves {t : Term} {cs cs' : List Concept} (h : InsertsLeaf t cs cs')
    (hl : ∀ c ∈ cs, c.children = []) : ∀ c ∈ cs', c.children = [] := by
  obtain ⟨pre, post, rfl, rfl⟩ := h
  intro x hx
  simp only [List.mem_append, List.mem_cons] at hx
  rcases hx with hx | rfl | hx
  · exact hl x (by simp [hx])
  · rfl
  · exact hl x (by simp [hx])

/-- One insertion keeps a tree flat when the terms seen and the new one have one span per
position: a term of a span the tree has becomes a writing of its concept, any other a new
leaf. -/
theorem flat_insertAmong {seen : List Term} {cs : List Concept} {t : Term} (h : Flat seen cs)
    (hone : Term.OneSpanPerPosition (seen ++ [t])) : Flat (seen ++ [t]) (insertAmong cs t).1 := by
  have hterm : ∀ c ∈ cs, c.term ∈ seen ++ [t] := fun c hc =>
    List.mem_append_left _ (h.labels.fst_mem (List.mem_map_of_mem hc))
  have htop := insertAmong_top fun c hc hct =>
    hone.span_eq_of_contains (hterm c hc) (List.mem_append_right seen (List.mem_singleton_self t))
      hct
  have hsorted : Sorted (insertAmong cs t).1 := (sortedTree_insertAmong h.sortedTree).1
  have hlabels := h.labels
  by_cases hex : ∃ c ∈ cs, c.term.span = t.span
  · -- The descent finds the concept of the term's span, at the top.
    obtain ⟨c, hc, hspan⟩ := hex
    obtain ⟨d, hd⟩ := insertAmong_alternate_of_mem h.separatedTree h.nestedTree
      (by rw [h.nodesAll_eq]; exact hc) hspan
    have hd1 : (insertAmong cs t).2 = .alternate 1 := by
      rcases htop with h1 | h1 <;> rw [h1] at hd ⊢
      cases hd
    have hstep := (insertAmong_alternate_iff.1 hd1).step_of_depth_one
    obtain ⟨pre, u, post, hu, hcs, hcs'⟩ := id hstep
    refine ⟨hstep.leaves h.leaves, hsorted, ?_⟩
    rw [hcs, List.map_append, List.map_cons] at hlabels
    rw [hcs', List.map_append, List.map_cons]
    exact hlabels.append_writing hu
  · have hd1 : (insertAmong cs t).2 = .newConcept 1 := by
      rcases htop with h1 | h1
      · -- An alternate writing at the top needs a concept of the term's span.
        obtain ⟨pre, u, post, hu, hcs, -⟩ := (insertAmong_alternate_iff.1 h1).step_of_depth_one
        exact absurd ⟨u, by simp [hcs], hu⟩ hex
      · exact h1
    have hstep := (insertAmong_newConcept_iff.1 hd1).step_of_depth_one
    obtain ⟨pre, post, hcs, hcs'⟩ := id hstep
    refine ⟨hstep.leaves h.leaves, hsorted, ?_⟩
    have hnew : ∀ l ∈ pre.map label ++ post.map label, l.1.span ≠ t.span := by
      intro l hl hlt
      rw [← List.map_append] at hl
      obtain ⟨c, hc, rfl⟩ := List.mem_map.1 hl
      exact hex ⟨c, by rw [hcs]; exact hc, hlt⟩
    rw [hcs, List.map_append] at hlabels
    rw [hcs', List.map_append, List.map_cons]
    exact hlabels.insert_leaf hnew

end Concept

namespace SpanTree

open ConceptQuery.Concept

/-! ### Runs of insertions -/

/-- Inserting terms keeps the labels drawn from the terms seen, now with the new ones. -/
theorem labelsFrom_insertAll {seen : List Term} {tree : SpanTree}
    (h : LabelsFrom seen ((nodesAll tree.concepts).map label)) (ts : List Term) :
    LabelsFrom (seen ++ ts) ((nodesAll (tree.insertAll ts).concepts).map label) := by
  induction ts generalizing seen tree with
  | nil => simpa using h
  | cons t ts ih =>
    have hrun := @ih (seen ++ [t]) (tree.insert t).1 (labelsFrom_insertAmong h)
    rw [insertAll_cons]
    simpa using hrun

/-- With one span per position, inserting terms into a flat tree keeps it flat. -/
theorem flat_insertAll {seen : List Term} {tree : SpanTree} (h : Flat seen tree.concepts)
    (ts : List Term) (hone : Term.OneSpanPerPosition (seen ++ ts)) :
    Flat (seen ++ ts) (tree.insertAll ts).concepts := by
  induction ts generalizing seen tree with
  | nil => simpa using h
  | cons t ts ih =>
    have hstep : Flat (seen ++ [t]) (tree.insert t).1.concepts := by
      rw [insert_concepts]
      exact flat_insertAmong h (hone.subset fun u hu => by simp at hu ⊢; tauto)
    have hrun := ih hstep (by simpa using hone)
    rw [insertAll_cons]
    simpa using hrun

/-- The labels of a built tree come from its terms and cover them, whatever the spans. -/
theorem build_labelsFrom (terms : List Term) :
    LabelsFrom terms ((nodesAll (build terms).concepts).map label) := by
  have hrun := @labelsFrom_insertAll [] empty labelsFrom_nil
    (Term.sortBySpan terms)
  rw [List.nil_append] at hrun
  exact hrun.of_mem_iff fun u => (Term.perm_sortBySpan terms).mem_iff.symm

/-- Every term has a concept of its span in the built tree. -/
theorem exists_node_of_mem_build {terms : List Term} {u : Term} (hu : u ∈ terms) :
    ∃ n ∈ nodesAll (build terms).concepts, n.term.span = u.span := by
  obtain ⟨l, hl, hlu⟩ := (build_labelsFrom terms).covers u hu
  obtain ⟨n, hn, rfl⟩ := List.mem_map.1 hl
  exact ⟨n, hn, hlu⟩

/-- Every writing of a concept of the built tree is the text of a term of the concept's span. -/
theorem exists_term_of_mem_writings {terms : List Term} {n : Concept}
    (hn : n ∈ nodesAll (build terms).concepts) {w : String} (hw : w ∈ n.writings) :
    ∃ u ∈ terms, u.span = n.term.span ∧ u.text = w :=
  (build_labelsFrom terms).sources (label n) (List.mem_map_of_mem hn) w hw

/-- Terms with one span per position build a flat tree that groups them by span. -/
theorem build_flat (terms : List Term) (h : Term.OneSpanPerPosition terms) :
    (∀ c ∈ (build terms).concepts, c.children = []) ∧ Sorted (build terms).concepts ∧
      (build terms).GroupsBySpan terms := by
  have hrun := @flat_insertAll [] empty flat_nil (Term.sortBySpan terms)
    (by rw [List.nil_append]; exact h.subset fun u => (Term.perm_sortBySpan terms).mem_iff.1)
  rw [List.nil_append] at hrun
  have hlabels := hrun.labels
  rw [← hrun.nodesAll_eq] at hlabels
  exact ⟨hrun.leaves, hrun.sorted, groupsBySpan_of_sortBySpan (groupsBySpan_of_labelsGroup hlabels)⟩

end SpanTree

end ConceptQuery
