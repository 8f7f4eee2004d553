import ConceptQuery.Proofs.SpanTree.Laminar

/-!
# Building a tree: the containment tree of laminar spans

`SpanTree.build` sorts the terms stably by span, then inserts them in that order. For terms whose
spans are laminar (none empty; at each position any two nested or disjoint) the result is the
containment tree of their distinct spans (`build_containmentTree`):

* **one concept per span.** The sort is a permutation that keeps the order of the terms of one
  span (`filter_sortBySpan`), so grouping by span carries over from any order of insertion
  (`SpanTree.insertAll_groupsBySpan`) to the input order;
* **children in span order.** Insertion keeps every list of siblings sorted;
* **the parent is the smallest strict container.** In span order a container comes before what
  it contains, so when a term arrives every span containing it is already a concept, on the path
  insertion follows; and a new concept never contains an older one. The invariant that carries
  this is `ApartTree`: no concept contains a sibling. In a nested, apart tree of laminar spans a
  concept whose span strictly contains another's is one of its ancestors
  (`ApartTree.mem_nodesAll_children`), and the containment tree follows.
-/

namespace ConceptQuery

namespace Term

/-- `p` is the smallest span among `terms` that strictly contains `s`: it strictly contains `s`,
and every term that strictly contains `s` contains `p`. -/
def IsParentSpan (terms : List Term) (p s : Term) : Prop :=
  p.StrictlyContains s ∧ ∀ u ∈ terms, u.StrictlyContains s → u.contains p = true

/-- What a term strictly contains does not contain it back. -/
theorem StrictlyContains.not_contains {a b : Term} (h : a.StrictlyContains b) :
    ¬b.contains a = true := by
  intro hba
  obtain ⟨hab, hne⟩ := h
  rw [contains_eq_true] at hab hba
  rw [Ne, span_eq_span] at hne
  omega

/-- Strict containment reads the spans only. -/
theorem strictlyContains_congr {a a' b b' : Term} (ha : a.span = a'.span) (hb : b.span = b'.span) :
    a.StrictlyContains b ↔ a'.StrictlyContains b' := by
  rw [StrictlyContains, StrictlyContains, contains_congr ha hb, ha, hb]

/-- Being nested or disjoint does not depend on the order of the two terms. -/
theorem NestedOrDisjoint.symm {a b : Term} (h : a.NestedOrDisjoint b) : b.NestedOrDisjoint a := by
  intro hp
  have := h hp.symm
  tauto

/-- Two spans that contain one non-empty span overlap, so when they are nested or disjoint one
contains the other. -/
theorem contains_or_contains_of_contains {a b n : Term} (ha : a.contains n = true)
    (hb : b.contains n = true) (hn : n.start < n.stop) (hlam : a.NestedOrDisjoint b) :
    a.contains b = true ∨ b.contains a = true := by
  unfold NestedOrDisjoint at hlam
  rw [contains_eq_true] at ha hb
  rw [contains_eq_true, contains_eq_true] at hlam ⊢
  omega

/-- A span that sorts before a sibling neither containing it nor contained in it cannot contain
a non-empty span sorting after that sibling. -/
theorem not_contains_of_apart {c h t : Term} (hch : c.spanCmp h = .lt) (hht : h.spanCmp t ≠ .gt)
    (hn₁ : ¬c.contains h = true) (hn₂ : ¬h.contains c = true) (hlam : c.NestedOrDisjoint h)
    (hh : h.start < h.stop) (ht : t.start < t.stop) : ¬c.contains t = true := by
  intro hct
  unfold NestedOrDisjoint at hlam
  rw [contains_eq_true] at hct hn₁ hn₂ hlam
  rw [contains_eq_true] at hlam
  rw [spanCmp_eq_lt] at hch
  rw [Ne, spanCmp_eq_gt] at hht
  omega

end Term

/-! ### The stable sort by span -/

namespace Term

/-- The order the sort uses: `a` does not sort after `b`. -/
theorem spanLe_trans (a b c : Term) (hab : (a.spanCmp b != .gt) = true)
    (hbc : (b.spanCmp c != .gt) = true) : (a.spanCmp c != .gt) = true := by
  simp only [bne_iff_ne, ne_eq] at *
  rw [spanCmp_eq_gt] at *
  omega

/-- Any two terms are ordered by span one way or the other. -/
theorem spanLe_total (a b : Term) : ((a.spanCmp b != .gt) || (b.spanCmp a != .gt)) = true := by
  simp only [Bool.or_eq_true, bne_iff_ne, ne_eq]
  rw [spanCmp_eq_gt, spanCmp_eq_gt]
  omega

/-- Sorting by span keeps the terms. -/
theorem perm_sortBySpan (terms : List Term) : (sortBySpan terms).Perm terms :=
  List.mergeSort_perm _ _

/-- The sorted terms: no term sorts after a later one. -/
theorem pairwise_sortBySpan (terms : List Term) :
    (sortBySpan terms).Pairwise fun a b => a.spanCmp b ≠ .gt := by
  have h := List.pairwise_mergeSort spanLe_trans spanLe_total terms
  refine h.imp fun hab => ?_
  simpa using hab

/-- The sort is stable: the terms of one span keep their order. -/
theorem filter_sortBySpan (terms : List Term) (s : Term) :
    (sortBySpan terms).filter (·.sameSpan s) = terms.filter (·.sameSpan s) := by
  -- The terms of one span are all equal for the sort, so they stay a sublist of the result.
  have hpair : (terms.filter (·.sameSpan s)).Pairwise fun a b => (a.spanCmp b != .gt) = true := by
    refine List.Pairwise.imp_of_mem ?_ (List.pairwise_of_forall fun _ _ => trivial)
    intro a b ha hb _
    rw [List.mem_filter, sameSpan_eq_true] at ha hb
    rw [spanCmp_congr ha.2 hb.2, spanCmp_self]
    rfl
  have hsub := List.sublist_mergeSort spanLe_trans spanLe_total hpair
    (List.filter_sublist (l := terms))
  have hsub' := hsub.filter (·.sameSpan s)
  simp only [List.filter_filter, Bool.and_self] at hsub'
  have hlen := ((perm_sortBySpan terms).filter (·.sameSpan s)).length_eq
  exact (hsub'.eq_of_length hlen.symm).symm

/-- Laminar terms stay laminar when some are dropped. -/
theorem Laminar.subset {ts ts' : List Term} (h : Laminar ts) (hsub : ∀ u ∈ ts', u ∈ ts) :
    Laminar ts' :=
  ⟨fun t ht => h.1 t (hsub t ht), fun a ha b hb => h.2 a (hsub a ha) b (hsub b hb)⟩

/-- Sorting a laminar family keeps it laminar. -/
theorem laminar_sortBySpan {terms : List Term} (h : Laminar terms) : Laminar (sortBySpan terms) :=
  h.subset fun _ hu => (perm_sortBySpan terms).mem_iff.1 hu

/-- Every term comes after the terms whose spans strictly contain it. -/
def ContainersFirst (ts : List Term) : Prop := ts.Pairwise fun a b => ¬b.StrictlyContains a

/-- Whether containers come first is decided pair by pair. -/
instance (ts : List Term) : Decidable (ContainersFirst ts) :=
  inferInstanceAs (Decidable (ts.Pairwise fun a b => ¬b.StrictlyContains a))

/-- Terms in span order come after their containers, a strict container sorting first. -/
theorem containersFirst_of_pairwise {ts : List Term}
    (h : ts.Pairwise fun a b => a.spanCmp b ≠ .gt) : ContainersFirst ts :=
  h.imp fun hab hba => hab (spanCmp_gt_of_lt hba.spanCmp_lt)

/-- Whether a span is the parent of another among some terms reads only which terms there are. -/
theorem isParentSpan_sortBySpan {terms : List Term} {p s : Term} :
    IsParentSpan (sortBySpan terms) p s ↔ IsParentSpan terms p s := by
  simp only [IsParentSpan, (perm_sortBySpan terms).mem_iff]

end Term

namespace Concept

/-! ### Apart siblings -/

/-- Neither of two concepts contains the other's span. -/
def Apart (a b : Concept) : Prop :=
  ¬a.term.contains b.term = true ∧ ¬b.term.contains a.term = true

/-- Being apart does not depend on the order of the two concepts. -/
theorem Apart.symm {a b : Concept} (h : Apart a b) : Apart b a := ⟨h.2, h.1⟩

/-- Being apart is symmetric. -/
instance : Std.Symm Apart := ⟨fun _ _ h => h.symm⟩

/-- Whether two concepts are apart reads only their terms. -/
theorem Apart.of_term {a a' b b' : Concept} (h : Apart a b) (ha : a'.term = a.term)
    (hb : b'.term = b.term) : Apart a' b' := by
  rw [Apart, ha, hb]
  exact h

/-- In every list of siblings, the top level included, no concept contains another. -/
def ApartTree (cs : List Concept) : Prop :=
  cs.Pairwise Apart ∧ ∀ n ∈ nodesAll cs, n.children.Pairwise Apart

/-- No concepts are apart trivially. -/
theorem apartTree_nil : ApartTree [] := ⟨List.Pairwise.nil, by simp⟩

/-- Concepts are apart when the first is apart from the rest and below it and among the rest all
are. -/
theorem apartTree_cons {c : Concept} {rest : List Concept} :
    ApartTree (c :: rest) ↔ (∀ r ∈ rest, Apart c r) ∧ ApartTree c.children ∧ ApartTree rest := by
  simp only [ApartTree, forall_nodesAll_cons, List.pairwise_cons]
  tauto

/-- Of two apart siblings, neither strictly contains the other. -/
theorem not_strictlyContains_of_pairwise_apart {cs : List Concept} (h : cs.Pairwise Apart)
    {a b : Concept} (ha : a ∈ cs) (hb : b ∈ cs) (hab : a.term.StrictlyContains b.term) : False := by
  have hne : a ≠ b := by
    rintro rfl
    exact hab.2 rfl
  exact (h.forall ha hb hne).1 hab.1

/-- Below two apart siblings lie apart parts of the tree: nothing in or below one contains a
non-empty span in or below the other, when the siblings' spans are nested or disjoint. -/
theorem Apart.not_contains {a b x y : Concept} (h : Apart a b) (hlam : a.term.NestedOrDisjoint b.term)
    (hax : a.term.contains x.term = true) (hby : b.term.contains y.term = true)
    (hy : y.term.start < y.term.stop) : ¬x.term.contains y.term = true := by
  intro hxy
  rcases Term.contains_or_contains_of_contains (Term.contains_trans hax hxy) hby hy hlam with
    hab | hba
  · exact h.1 hab
  · exact h.2 hba

/-- What lies below a concept lies below the concepts above it. -/
theorem mem_nodesAll_children_of_mem_nodes {c m n : Concept} (hm : m ∈ c.nodes)
    (hn : n ∈ nodesAll m.children) : n ∈ nodesAll c.children := by
  rw [mem_nodes] at hm
  rcases hm with rfl | hm
  · exact hn
  · exact mem_nodesAll_trans hm (mem_nodes_of_mem_nodesAll_children hn)

/-- Inserting a term that strictly contains no concept of the tree keeps siblings apart, when the
spans of the tree and the term's are laminar. The term either goes below a concept that contains
it, or becomes a leaf among siblings: it contains none of them, having the span of none and
strictly containing none; the siblings after it sort after it, so they do not contain it; and the
sibling just before it does not contain it, or insertion would have gone below it. -/
theorem apartTree_insertAmong {seen : List Term} {cs : List Concept} {t : Term}
    (happ : ApartTree cs) (hsort : SortedTree cs) (hseen : ∀ n ∈ nodesAll cs, n.term ∈ seen)
    (hlam : Term.Laminar (seen ++ [t])) (hout : ∀ u ∈ seen, ¬t.StrictlyContains u) :
    ApartTree (insertAmong cs t).1 := by
  have hmem : ∀ u ∈ seen, u ∈ seen ++ [t] := fun u hu => List.mem_append_left _ hu
  induction cs, t using insertAmong_induction with
  | nil t =>
    rw [insertAmong_nil]
    exact ⟨List.pairwise_singleton _ _, by simp⟩
  | same c rest t hc =>
    rw [insertAmong_cons_same hc]
    obtain ⟨hr, hch, hrest⟩ := apartTree_cons.1 happ
    exact apartTree_cons.2 ⟨fun r hr' => (hr r hr').of_term rfl rfl, hch, hrest⟩
  | before c rest t hc =>
    rw [insertAmong_cons_before hc]
    obtain ⟨hsr, -, -⟩ := sortedTree_cons.1 hsort
    refine apartTree_cons.2 ⟨fun r hr => ?_, by simpa using apartTree_nil, happ⟩
    -- Every sibling sorts after the term: `c` does, and the rest sort after `c`.
    have hrt : r.term.spanCmp t = .gt := by
      rcases List.mem_cons.1 hr with rfl | hr
      · exact hc
      · exact Term.spanCmp_gt_of_lt (Term.spanCmp_lt_trans (Term.spanCmp_lt_of_gt hc) (hsr r hr))
    have hrseen : r.term ∈ seen := hseen r (mem_nodesAll_of_mem hr)
    refine ⟨fun htr => ?_, fun hrt' => Term.spanCmp_ne_gt_of_contains hrt' hrt⟩
    -- A term containing a sibling that sorts after it would contain it strictly.
    exact hout r.term hrseen (Term.strictlyContains_of_lt htr (Term.spanCmp_lt_of_gt hrt))
  | descend c rest t hc hs hct ih =>
    rw [insertAmong_cons_descend hc hs hct]
    obtain ⟨hr, hch, hrest⟩ := apartTree_cons.1 happ
    obtain ⟨-, hsch, -⟩ := sortedTree_cons.1 hsort
    have hseen' := forall_nodesAll_cons.1 hseen
    refine apartTree_cons.2 ⟨fun r hr' => (hr r hr').of_term rfl rfl, ?_, hrest⟩
    exact ih hch hsch hseen'.2.1 hlam hout hmem
  | pass c rest t hc hn ih =>
    rw [insertAmong_cons_pass hc hn]
    obtain ⟨hr, hch, hrest⟩ := apartTree_cons.1 happ
    obtain ⟨hsr, -, hsrest⟩ := sortedTree_cons.1 hsort
    have hseen' := forall_nodesAll_cons.1 hseen
    have hcseen : c.term ∈ seen := hseen'.1
    have htc : ¬t.contains c.term = true := fun htc =>
      Term.spanCmp_ne_gt_of_contains htc (Term.spanCmp_gt_of_lt hc)
    have hct : ¬c.term.contains t = true := by
      intro hct
      by_cases hs : stopsBefore rest t = true
      · exact hn ⟨hs, hct⟩
      · -- The next sibling sorts no later than the term, and `c` is apart from it.
        cases rest with
        | nil => exact hs rfl
        | cons h tl =>
          rw [stopsBefore_cons] at hs
          have hhseen : h.term ∈ seen := hseen'.2.2 h (mem_nodesAll_of_mem List.mem_cons_self)
          refine Term.not_contains_of_apart (hsr h List.mem_cons_self) hs
            (hr h List.mem_cons_self).1 (hr h List.mem_cons_self).2
            (hlam.2 _ (hmem _ hcseen) _ (hmem _ hhseen)) (hlam.1 _ (hmem _ hhseen))
            (hlam.1 t (by simp)) hct
    refine apartTree_cons.2 ⟨?_, hch, ih hrest hsrest hseen'.2.2 hlam hout hmem⟩
    intro x hx
    rcases term_mem_of_mem_insertAmong hx with hxt | hxr
    · exact ⟨by rw [hxt]; exact hct, by rw [hxt]; exact htc⟩
    · obtain ⟨y, hy, hyx⟩ := List.mem_map.1 hxr
      exact (hr y hy).of_term rfl hyx.symm

/-! ### Ancestors in an apart tree -/

/-- In a nested tree whose siblings are apart, a concept whose span strictly contains another
concept's span lies above it, when the spans of the tree are laminar: the two cannot lie below
two different siblings, since those would then overlap. -/
theorem ApartTree.mem_nodesAll_children {seen : List Term} {cs : List Concept}
    (happ : ApartTree cs) (hnest : NestedTree cs) (hseen : ∀ n ∈ nodesAll cs, n.term ∈ seen)
    (hlam : Term.Laminar seen) {m n : Concept} (hm : m ∈ nodesAll cs) (hn : n ∈ nodesAll cs)
    (hmn : m.term.StrictlyContains n.term) : n ∈ nodesAll m.children := by
  induction cs using listInduction with
  | nil => simp at hm
  | cons c rest ihc ihr =>
    obtain ⟨hr, hch, hrest⟩ := apartTree_cons.1 happ
    obtain ⟨-, hnch, hnrest⟩ := nestedTree_cons.1 hnest
    have hseen' := forall_nodesAll_cons.1 hseen
    have hcn : ∀ x ∈ c.nodes, c.term.contains x.term = true :=
      fun x hx => hnest.contains_of_mem_nodes (mem_nodesAll_of_mem List.mem_cons_self) hx
    -- A concept below a later sibling `r`: `r` contains it, and `r` and `c` are laminar.
    have hrest_node : ∀ x ∈ nodesAll rest, ∃ r ∈ rest, r.term.contains x.term = true ∧
        Apart c r ∧ c.term.NestedOrDisjoint r.term := by
      intro x hx
      obtain ⟨r, hr', hxr⟩ := mem_nodesAll.1 hx
      refine ⟨r, hr', hnrest.contains_of_mem_nodes (mem_nodesAll_of_mem hr') hxr, hr r hr', ?_⟩
      exact hlam.2 _ hseen'.1 _ (hseen'.2.2 r (mem_nodesAll_of_mem hr'))
    have hne : n.term.start < n.term.stop := hlam.1 _ (hseen n hn)
    rw [nodesAll_cons, List.mem_append] at hm hn
    rcases hm with hm | hm <;> rcases hn with hn | hn
    · -- Both in or below `c`.
      rw [mem_nodes] at hm hn
      rcases hm with rfl | hm
      · rcases hn with rfl | hn
        · exact absurd rfl hmn.2
        · exact hn
      · rcases hn with rfl | hn
        · have hnm := hnest.strictlyContains_of_mem (mem_nodesAll_of_mem List.mem_cons_self) hm
          exact absurd hmn.1 hnm.not_contains
        · exact ihc hch hnch hseen'.2.1 hm hn
    · obtain ⟨r, -, hrn, hcr, hlcr⟩ := hrest_node n hn
      exact absurd hmn.1 (hcr.not_contains hlcr (hcn m hm) hrn hne)
    · obtain ⟨r, -, hrm, hcr, hlcr⟩ := hrest_node m hm
      exact absurd hmn.1 (hcr.symm.not_contains hlcr.symm hrm (hcn n hn) hne)
    · exact ihr hrest hnrest hseen'.2.2 hm hn

/-! ### Runs of sorted laminar insertions -/

/-- What a run of laminar insertions in span order keeps, for the terms `seen` inserted so far:
the tree is grouped by span, its siblings are sorted and no concept contains a sibling. -/
structure Layered (seen : List Term) (cs : List Concept) : Prop where
  /-- The tree groups the terms seen. -/
  grouped : Grouped seen cs
  /-- It is sorted at every level. -/
  sorted : SortedTree cs
  /-- Siblings are apart at every level. -/
  apart : ApartTree cs

/-- The empty tree is layered over no terms. -/
theorem layered_nil : Layered [] [] := ⟨grouped_nil, sortedTree_nil, apartTree_nil⟩

/-- One insertion of a term that strictly contains none of the terms seen keeps a tree layered,
when all are laminar. -/
theorem layered_insertAmong {seen : List Term} {cs : List Concept} {t : Term}
    (h : Layered seen cs) (hlam : Term.Laminar (seen ++ [t]))
    (hout : ∀ u ∈ seen, ¬t.StrictlyContains u) :
    Layered (seen ++ [t]) (insertAmong cs t).1 := by
  have hlam' : ∀ u ∈ seen, u.start < u.stop ∧ u.NestedOrDisjoint t := fun u hu =>
    ⟨hlam.1 u (List.mem_append_left _ hu), hlam.2 u (List.mem_append_left _ hu) t (by simp)⟩
  exact ⟨grouped_insertAmong h.grouped hlam', sortedTree_insertAmong h.sorted,
    apartTree_insertAmong h.apart h.sorted (fun n hn => h.grouped.term_mem hn) hlam hout⟩

/-! ### The parent of a concept -/

section Parent

variable {seen : List Term} {cs : List Concept}

/-- A concept whose span strictly contains a concept's span lies above it. -/
theorem Layered.mem_nodesAll_children (h : Layered seen cs) (hlam : Term.Laminar seen)
    {m n : Concept} (hm : m ∈ nodesAll cs) (hn : n ∈ nodesAll cs)
    (hmn : m.term.StrictlyContains n.term) : n ∈ nodesAll m.children :=
  h.apart.mem_nodesAll_children h.grouped.nested (fun _ hx => h.grouped.term_mem hx) hlam hm hn hmn

/-- The parent of a concept is the smallest span above it: a concept whose span strictly contains
the child's contains the parent's. -/
theorem Layered.contains_parent (h : Layered seen cs) (hlam : Term.Laminar seen)
    {p n m : Concept} (hp : p ∈ nodesAll cs) (hnp : n ∈ p.children) (hm : m ∈ nodesAll cs)
    (hmn : m.term.StrictlyContains n.term) : m.term.contains p.term = true := by
  have hpn : p.term.StrictlyContains n.term := h.grouped.nested p hp n hnp
  have hn : n ∈ nodesAll cs := mem_nodesAll_children_trans hp hnp
  have hne : n.term.start < n.term.stop := hlam.1 _ (h.grouped.term_mem hn)
  have hlmp := hlam.2 _ (h.grouped.term_mem hm) _ (h.grouped.term_mem hp)
  rcases Term.contains_or_contains_of_contains hmn.1 hpn.1 hne hlmp with hmp | hpm
  · exact hmp
  · by_cases hs : p.term.span = m.term.span
    · rw [Term.contains_congr hs.symm hs]
      exact hpm
    · -- Otherwise `m` lies below a child `c` of `p`, which then contains its sibling `n`.
      exfalso
      obtain ⟨c, hc, hmc⟩ := mem_nodesAll.1 (h.mem_nodesAll_children hlam hp hm ⟨hpm, hs⟩)
      have hnc : n ∈ nodesAll c.children :=
        mem_nodesAll_children_of_mem_nodes hmc (h.mem_nodesAll_children hlam hm hn hmn)
      have hcn := h.grouped.nested.strictlyContains_of_mem (mem_nodesAll_children_trans hp hc) hnc
      exact not_strictlyContains_of_pairwise_apart (h.apart.2 p hp) hc hnp hcn

/-- A concept is a child of another exactly when the other's span is the smallest span seen that
strictly contains its own. -/
theorem Layered.mem_children_iff (h : Layered seen cs) (hlam : Term.Laminar seen)
    {p n : Concept} (hp : p ∈ nodesAll cs) (hn : n ∈ nodesAll cs) :
    n ∈ p.children ↔ Term.IsParentSpan seen p.term n.term := by
  constructor
  · intro hnp
    refine ⟨h.grouped.nested p hp n hnp, fun u hu hun => ?_⟩
    obtain ⟨m, hm, hmu⟩ := h.grouped.labels.exists_node hu
    rw [← Term.contains_congr hmu rfl]
    exact h.contains_parent hlam hp hnp hm ((Term.strictlyContains_congr hmu rfl).2 hun)
  · rintro ⟨hpn, hsmall⟩
    obtain ⟨c, hc, hnc⟩ := mem_nodesAll.1 (h.mem_nodesAll_children hlam hp hn hpn)
    rw [mem_nodes] at hnc
    rcases hnc with rfl | hnc
    · exact hc
    · -- A child of `p` above `n` would be a smaller span containing `n`'s.
      exfalso
      have hcm : c ∈ nodesAll cs := mem_nodesAll_children_trans hp hc
      have hcn := h.grouped.nested.strictlyContains_of_mem hcm hnc
      exact (h.grouped.nested p hp c hc).not_contains (hsmall c.term (h.grouped.term_mem hcm) hcn)

/-- A concept is at the top level exactly when no span seen strictly contains its own. -/
theorem Layered.mem_iff (h : Layered seen cs) (hlam : Term.Laminar seen) {n : Concept}
    (hn : n ∈ nodesAll cs) : n ∈ cs ↔ ∀ u ∈ seen, ¬u.StrictlyContains n.term := by
  constructor
  · intro hcs u hu hun
    obtain ⟨m, hm, hmu⟩ := h.grouped.labels.exists_node hu
    have hbelow := h.mem_nodesAll_children hlam hm hn ((Term.strictlyContains_congr hmu rfl).2 hun)
    obtain ⟨r, hr, hmr⟩ := mem_nodesAll.1 hm
    have hrn := h.grouped.nested.strictlyContains_of_mem (mem_nodesAll_of_mem hr)
      (mem_nodesAll_children_of_mem_nodes hmr hbelow)
    exact not_strictlyContains_of_pairwise_apart h.apart.1 hr hcs hrn
  · intro htop
    obtain ⟨r, hr, hnr⟩ := mem_nodesAll.1 hn
    rw [mem_nodes] at hnr
    rcases hnr with rfl | hnr
    · exact hr
    · have hrm : r ∈ nodesAll cs := mem_nodesAll_of_mem hr
      exact absurd (h.grouped.nested.strictlyContains_of_mem hrm hnr)
        (htop r.term (h.grouped.term_mem hrm))

end Parent

end Concept

namespace SpanTree

open ConceptQuery.Concept

/-- Laminar insertions in which no term comes after a term it strictly contains keep a tree
layered. -/
theorem layered_insertAll_of_containersFirst {seen : List Term} {tree : SpanTree}
    (h : Layered seen tree.concepts) (ts : List Term) (hlam : Term.Laminar (seen ++ ts))
    (hfirst : Term.ContainersFirst (seen ++ ts)) :
    Layered (seen ++ ts) (tree.insertAll ts).concepts := by
  induction ts generalizing seen tree with
  | nil => simpa using h
  | cons t ts ih =>
    have hout : ∀ u ∈ seen, ¬t.StrictlyContains u :=
      fun u hu => List.pairwise_append.1 hfirst |>.2.2 u hu t List.mem_cons_self
    have hstep : Layered (seen ++ [t]) (tree.insert t).1.concepts := by
      rw [insert_concepts]
      exact layered_insertAmong h (hlam.subset fun u hu => by simp at hu ⊢; tauto) hout
    have hrun := ih hstep (by simpa using hlam) (by simpa [Term.ContainersFirst] using hfirst)
    rw [insertAll_cons]
    simpa using hrun

/-- Laminar insertions in span order keep a tree layered. -/
theorem layered_insertAll {seen : List Term} {tree : SpanTree} (h : Layered seen tree.concepts)
    (ts : List Term) (hlam : Term.Laminar (seen ++ ts))
    (hsorted : (seen ++ ts).Pairwise fun a b => a.spanCmp b ≠ .gt) :
    Layered (seen ++ ts) (tree.insertAll ts).concepts :=
  layered_insertAll_of_containersFirst h ts hlam (Term.containersFirst_of_pairwise hsorted)

/-- Grouping by span reads the terms of each span in order and the distinct spans, which the
sort keeps. -/
theorem groupsBySpan_of_sortBySpan {terms : List Term} {tree : SpanTree}
    (h : tree.GroupsBySpan (Term.sortBySpan terms)) : tree.GroupsBySpan terms := by
  obtain ⟨hone, hholds, hcount⟩ := h
  refine ⟨fun t ht => hone t ((Term.perm_sortBySpan terms).mem_iff.2 ht), ?_, ?_⟩
  · intro n hn
    rw [← Term.filter_sortBySpan]
    exact hholds n hn
  · rw [hcount]
    exact (((Term.perm_sortBySpan terms).map Term.span).dedup).length_eq

/-- The tree is the containment tree of the spans of `terms`: it groups the terms by span, every
list of siblings is strictly sorted by span, a concept is a child of another exactly when the
other's span is the smallest span of `terms` that strictly contains its own, and a concept is at
the top level exactly when no span of `terms` strictly contains its own. -/
def IsContainmentTree (terms : List Term) (tree : SpanTree) : Prop :=
  tree.GroupsBySpan terms ∧ SortedTree tree.concepts ∧
    (∀ p ∈ nodesAll tree.concepts, ∀ n ∈ nodesAll tree.concepts,
      n ∈ p.children ↔ Term.IsParentSpan terms p.term n.term) ∧
    ∀ n ∈ nodesAll tree.concepts, n ∈ tree.concepts ↔ ∀ u ∈ terms, ¬u.StrictlyContains n.term

/-- Terms with laminar spans, in any order, build the containment tree of their distinct spans:
sorting puts every span before the spans it contains, and the layered run does the rest. -/
theorem build_isContainmentTree (terms : List Term) (h : Term.Laminar terms) :
    (build terms).IsContainmentTree terms := by
  have hlam : Term.Laminar (Term.sortBySpan terms) := Term.laminar_sortBySpan h
  have hrun : Layered ([] ++ Term.sortBySpan terms) (build terms).concepts :=
    layered_insertAll layered_nil _ (by simpa using hlam)
      (by simpa using Term.pairwise_sortBySpan terms)
  rw [List.nil_append] at hrun
  refine ⟨groupsBySpan_of_sortBySpan (groupsBySpan_of_labelsGroup hrun.grouped.labels),
    hrun.sorted, ?_, ?_⟩
  · intro p hp n hn
    rw [hrun.mem_children_iff hlam hp hn, Term.isParentSpan_sortBySpan]
  · intro n hn
    rw [hrun.mem_iff hlam hn]
    simp only [(Term.perm_sortBySpan terms).mem_iff]

/-- Three levels of nested spans, given in reverse order with a second writing of one span,
build their containment tree. -/
theorem build_isContainmentTree_reversed :
    let ts : List Term := [⟨"c", 18, 19, 1⟩, ⟨"f", 15, 16, 0⟩, ⟨"E", 7, 14, 0⟩,
      ⟨"h", 12, 13, 0⟩, ⟨"g", 10, 11, 0⟩, ⟨"e", 7, 14, 0⟩, ⟨"d", 5, 6, 0⟩, ⟨"b", 2, 17, 0⟩,
      ⟨"a", 0, 1, 0⟩]
    Term.Laminar ts ∧ (build ts).IsContainmentTree ts :=
  ⟨by decide, build_isContainmentTree _ (by decide)⟩

end SpanTree

end ConceptQuery
