import ConceptQuery.Proofs.SpanTree.Order

/-!
# Trees of groups of terms

Terms at different positions never nest, and a tree holds them in span order, position first. So
terms that come in groups, each group at positions before the next one's, build the trees of their
groups side by side (`SpanTree.build_flatten`):

* **sorting keeps the groups.** The stable sort of the whole is the sort of each group, group after
  group (`Term.sortBySpan_flatten`): both are in span order and hold the terms of each span in the
  same order, and such a list is unique;
* **insertion passes earlier groups by.** An inserted term sorts after every concept of an earlier
  group and none of them contains it (`Term.Before`), so insertion walks past them
  (`Concept.insertAmong_append_of_before`) and the group's terms land after them as they would in
  a tree of their own (`SpanTree.insertAll_append_of_before`).

Two kinds of group build a tree of one concept:

* **a stack** of writings over one span: the first writing is the concept's term and the others
  its alternates, in order (`SpanTree.build_stack`);
* **a compound** followed by parts that it strictly contains, each part before the next: the parts
  become the compound's leaves, in order (`SpanTree.build_compound`).
-/

namespace ConceptQuery

namespace Term

/-- `a` comes before `b` without holding it: it sorts before `b` and does not contain it, so an
insertion of `b` passes a concept of `a` by. -/
def Before (a b : Term) : Prop := a.spanCmp b = .lt ∧ a.contains b = false

/-- A term at an earlier position comes before every term at a later one. -/
theorem before_of_position_lt {a b : Term} (h : a.position < b.position) : a.Before b := by
  refine ⟨spanCmp_eq_lt.2 (.inl h), Bool.eq_false_iff.2 fun hc => ?_⟩
  have := (contains_eq_true.1 hc).1
  omega

/-- At one position, a term that ends no later than another starts comes before it. -/
theorem before_of_stop_le {a b : Term} (hpos : a.position = b.position) (ha : a.start < a.stop)
    (hab : a.stop ≤ b.start) (hb : b.start < b.stop) : a.Before b := by
  refine ⟨spanCmp_eq_lt.2 (.inr ⟨hpos, .inl (by omega)⟩), Bool.eq_false_iff.2 fun hc => ?_⟩
  have := (contains_eq_true.1 hc).2.2
  omega

/-- Coming before reads the spans only. -/
theorem Before.congr {a a' b b' : Term} (h : a.Before b) (ha : a.span = a'.span)
    (hb : b.span = b'.span) : a'.Before b' := by
  rw [Before, ← spanCmp_congr ha hb, ← contains_congr ha hb]
  exact h

/-- Groups of terms at ascending positions: every term of a group stands at a position before
every term of each later group. -/
def AscendingGroups (gs : List (List Term)) : Prop :=
  gs.Pairwise fun g g' => ∀ u ∈ g, ∀ v ∈ g', u.position < v.position

/-- Sorting each group keeps the groups ascending. -/
theorem AscendingGroups.map_sortBySpan {gs : List (List Term)} (h : AscendingGroups gs) :
    AscendingGroups (gs.map sortBySpan) := by
  rw [AscendingGroups, List.pairwise_map]
  exact h.imp fun hgg' u hu v hv =>
    hgg' u ((perm_sortBySpan _).mem_iff.1 hu) v ((perm_sortBySpan _).mem_iff.1 hv)

/-- Terms already in span order are their own sort. -/
theorem sortBySpan_eq_self {terms : List Term}
    (h : terms.Pairwise fun a b => a.spanCmp b ≠ .gt) : sortBySpan terms = terms :=
  List.mergeSort_of_pairwise (h.imp fun hab => bne_iff_ne.2 hab)

/-- Sorting groups at ascending positions sorts each group in its place. -/
theorem sortBySpan_flatten {gs : List (List Term)} (h : AscendingGroups gs) :
    sortBySpan gs.flatten = (gs.map sortBySpan).flatten := by
  refine eq_of_sameSpanOrder (pairwise_sortBySpan _) ?_ fun s => ?_
  · -- Each sorted group is in order, and a term of an earlier group sorts before a later one.
    rw [List.pairwise_flatten]
    refine ⟨fun g hg => ?_, h.map_sortBySpan.imp fun hgg' u hu v hv => ?_⟩
    · obtain ⟨g, -, rfl⟩ := List.mem_map.1 hg
      exact pairwise_sortBySpan g
    · rw [Ne, spanCmp_eq_gt]
      have := hgg' u hu v hv
      omega
  · rw [filter_sortBySpan, List.filter_flatten, List.filter_flatten, List.map_map]
    congr 1
    exact List.map_congr_left fun g _ => (filter_sortBySpan g s).symm

end Term

namespace Concept

/-- Insertion passes concepts whose terms come before the inserted one: among them and later
siblings, it inserts among the later siblings. -/
theorem insertAmong_append_of_before {cs : List Concept} {t : Term}
    (h : ∀ c ∈ cs, c.term.Before t) (ds : List Concept) :
    insertAmong (cs ++ ds) t = (cs ++ (insertAmong ds t).1, (insertAmong ds t).2) := by
  induction cs with
  | nil => rfl
  | cons c cs ih =>
    obtain ⟨hlt, hnc⟩ := h c List.mem_cons_self
    rw [List.cons_append, insertAmong_cons_pass hlt (by simp [hnc]),
      ih fun d hd => h d (List.mem_cons_of_mem c hd)]
    rfl

end Concept

namespace SpanTree

open ConceptQuery.Concept

/-- Inserting into a tree gives the tree of the top concepts after the insertion. -/
theorem insert_fst (tree : SpanTree) (t : Term) :
    (tree.insert t).1 = ⟨(insertAmong tree.concepts t).1⟩ := rfl

/-- Inserting two lists of terms is inserting the first, then the second. -/
theorem insertAll_append (tree : SpanTree) (ts ts' : List Term) :
    tree.insertAll (ts ++ ts') = (tree.insertAll ts).insertAll ts' :=
  List.foldl_append

/-- Inserting terms that every concept of `cs` comes before keeps `cs` in front and inserts among
the concepts after them. -/
theorem insertAll_append_of_before {cs : List Concept} {ts : List Term}
    (h : ∀ c ∈ cs, ∀ t ∈ ts, c.term.Before t) (ds : List Concept) :
    (SpanTree.mk (cs ++ ds)).insertAll ts = ⟨cs ++ ((SpanTree.mk ds).insertAll ts).concepts⟩ := by
  induction ts generalizing ds with
  | nil => rfl
  | cons t ts ih =>
    rw [insertAll_cons, insertAll_cons, insert_fst, insert_fst,
      insertAmong_append_of_before (fun c hc => h c hc t List.mem_cons_self),
      ih (fun c hc u hu => h c hc u (List.mem_cons_of_mem t hu))]

/-- A top-level concept after insertions has the term of a top-level concept before them or an
inserted term. -/
theorem term_mem_of_mem_insertAll {tree : SpanTree} {ts : List Term} {c : Concept}
    (h : c ∈ (tree.insertAll ts).concepts) :
    c.term ∈ tree.concepts.map Concept.term ∨ c.term ∈ ts := by
  induction ts generalizing tree with
  | nil => exact .inl (List.mem_map_of_mem h)
  | cons t ts ih =>
    rw [insertAll_cons] at h
    rcases ih h with hmem | hmem
    · rw [insert_concepts] at hmem
      obtain ⟨x, hx, hxc⟩ := List.mem_map.1 hmem
      rw [← hxc]
      rcases term_mem_of_mem_insertAmong hx with hxt | hxt
      · exact .inr (by rw [hxt]; exact List.mem_cons_self)
      · exact .inl hxt
    · exact .inr (List.mem_cons_of_mem t hmem)

/-- Inserting groups at ascending positions after concepts at earlier positions appends the tree
of each group in turn. The induction is on the groups; the concepts in front grow by the tree of
each group inserted. -/
theorem insertAll_flatten {gs : List (List Term)} (h : Term.AscendingGroups gs) {cs : List Concept}
    (hcs : ∀ c ∈ cs, ∀ g ∈ gs, ∀ v ∈ g, c.term.position < v.position) :
    ((SpanTree.mk cs).insertAll gs.flatten).concepts =
      cs ++ gs.flatMap fun g => (empty.insertAll g).concepts := by
  induction gs generalizing cs with
  | nil => simp
  | cons g gs ih =>
    obtain ⟨hg, hgs⟩ := List.pairwise_cons.1 h
    have hfirst : (SpanTree.mk cs).insertAll g = ⟨cs ++ (empty.insertAll g).concepts⟩ := by
      have := @insertAll_append_of_before cs g
        (fun c hc t ht => Term.before_of_position_lt (hcs c hc g List.mem_cons_self t ht)) []
      rwa [List.append_nil] at this
    -- The concepts of the first group's tree have its terms, before every later group.
    have hcs' : ∀ c ∈ cs ++ (empty.insertAll g).concepts, ∀ g' ∈ gs, ∀ v ∈ g',
        c.term.position < v.position := by
      intro c hc g' hg' v hv
      rcases List.mem_append.1 hc with hc | hc
      · exact hcs c hc g' (List.mem_cons_of_mem g hg') v hv
      · have hterm : c.term ∈ g := (term_mem_of_mem_insertAll hc).resolve_left List.not_mem_nil
        exact hg g' hg' c.term hterm v hv
    rw [List.flatten_cons, insertAll_append, hfirst, ih hgs hcs', List.flatMap_cons,
      List.append_assoc]

/-- Terms in groups at ascending positions build the trees of their groups side by side. -/
theorem build_flatten {gs : List (List Term)} (h : Term.AscendingGroups gs) :
    (build gs.flatten).concepts = gs.flatMap fun g => (build g).concepts := by
  have hrun := @insertAll_flatten _ h.map_sortBySpan [] (by simp)
  rw [List.nil_append, List.flatMap_map] at hrun
  rw [build, Term.sortBySpan_flatten h]
  exact hrun

/-! ### Groups of one concept -/

/-- Writings stacked over the span of a concept's term become its alternates, in order. -/
theorem insertAll_stack (u : Term) (alts ss : List String) :
    (SpanTree.mk [⟨u, alts, []⟩]).insertAll (ss.map fun s => { u with text := s }) =
      ⟨[⟨u, alts ++ ss, []⟩]⟩ := by
  induction ss generalizing alts with
  | nil => simp
  | cons s ss ih =>
    have hsame : u.spanCmp { u with text := s } = .eq := Term.spanCmp_eq_eq.2 rfl
    rw [List.map_cons, insertAll_cons, insert_fst, insertAmong_cons_same hsame]
    simpa using ih (alts ++ [s])

/-- A stack of writings over one span builds one concept: the first writing is its term and the
others its alternates, in order. -/
theorem build_stack (u : Term) (ss : List String) :
    (build (u :: ss.map fun s => { u with text := s })).concepts = [⟨u, ss, []⟩] := by
  -- Every writing has the span of the first, so the stack is in span order.
  have hspan : ∀ a ∈ u :: ss.map (fun s => { u with text := s }), a.span = u.span := by
    intro a ha
    rcases List.mem_cons.1 ha with rfl | ha
    · rfl
    · obtain ⟨s, -, rfl⟩ := List.mem_map.1 ha
      rfl
  have hsorted : (u :: ss.map fun s => { u with text := s }).Pairwise
      fun a b => a.spanCmp b ≠ .gt := by
    refine List.Pairwise.imp_of_mem ?_ (List.pairwise_of_forall (R := fun _ _ => True)
      fun _ _ => trivial)
    intro a b ha hb _
    rw [Term.spanCmp_congr (hspan a ha) (hspan b hb), Term.spanCmp_self]
    decide
  rw [build, Term.sortBySpan_eq_self hsorted, insertAll_cons, insert_fst]
  exact congrArg SpanTree.concepts (insertAll_stack u [] ss)

/-- Parts below a compound, each after the parts before it, become its leaves in order. -/
theorem insertAll_parts {u : Term} {pre ps : List Term} (hu : ∀ p ∈ ps, u.StrictlyContains p)
    (h : (pre ++ ps).Pairwise Term.Before) :
    (SpanTree.mk [⟨u, [], pre.map leaf⟩]).insertAll ps = ⟨[⟨u, [], (pre ++ ps).map leaf⟩]⟩ := by
  induction ps generalizing pre with
  | nil => simp
  | cons p ps ih =>
    -- The part goes below the compound, after the parts already there.
    have hbefore : ∀ c ∈ pre.map leaf, c.term.Before p := by
      intro c hc
      obtain ⟨q, hq, rfl⟩ := List.mem_map.1 hc
      exact (List.pairwise_append.1 h).2.2 q hq p List.mem_cons_self
    have hstep : insertAmong [⟨u, [], pre.map leaf⟩] p =
        ([⟨u, [], (pre ++ [p]).map leaf⟩], (Placement.newConcept 1).nested) := by
      have hp := hu p List.mem_cons_self
      rw [insertAmong_cons_descend hp.spanCmp_lt (stopsBefore_nil p) hp.1]
      have := insertAmong_append_of_before hbefore []
      rw [List.append_nil, insertAmong_nil] at this
      simp [this]
    rw [insertAll_cons, insert_fst]
    simp only [hstep]
    rw [ih (fun q hq => hu q (List.mem_cons_of_mem p hq)) (by simpa using h)]
    simp

/-- A compound followed by parts that it strictly contains, each part before the next, builds one
concept: the compound, with the parts as its leaves in order. -/
theorem build_compound {u : Term} {ps : List Term} (hu : ∀ p ∈ ps, u.StrictlyContains p)
    (hps : ps.Pairwise Term.Before) : (build (u :: ps)).concepts = [⟨u, [], ps.map leaf⟩] := by
  have hsorted : (u :: ps).Pairwise fun a b => a.spanCmp b ≠ .gt := by
    refine List.pairwise_cons.2 ⟨fun p hp => ?_, hps.imp fun hab => ?_⟩
    · rw [(hu p hp).spanCmp_lt]
      decide
    · rw [hab.1]
      decide
  rw [build, Term.sortBySpan_eq_self hsorted, insertAll_cons, insert_fst]
  exact congrArg SpanTree.concepts (@insertAll_parts u [] ps hu hps)

end SpanTree

end ConceptQuery
