import ConceptQuery.Proofs.SpanTree.Positions
import ConceptQuery.Proofs.SpanTree.Order
import ConceptQuery.Proofs.Compile.Filter
import ConceptQuery.Proofs.Weight.Unit

/-!
# Queries across fields against queries across variants

Both kinds of query analyze the same text into the same terms. A query across fields forgets the
spans: it groups the texts by position (`FieldsQuery.groupByPosition`) and asks that, at every
position, one of the texts be found in one of the fields. A query across variants builds the span
tree and asks that every top-level concept be satisfied.

**Never more permissive.** Whatever the spans (overlaps and stacked parts included), the mode and
the query weight, every document the variants query matches is matched by the fields query
(`variants_accepts_imp_fields_accepts`). At each position some term has a concept
(`SpanTree.exists_node_of_mem_build`), a top-level concept and all below it lie at one position
(`NestedTree.position_eq`), a satisfied concept is satisfied through a writing below it
(`Compiler.Satisfies.exists_writing`), and every writing of the tree is a text of a term of its
span (`SpanTree.exists_term_of_mem_writings`), so of its position.

**Equal when every position has one span.** The tree is then flat, one leaf per position
(`SpanTree.build_flat`), and its writings are the groups of the fields query
(`SpanTree.map_writings_build`): both sorts are stable, so the texts of a position keep the order
of the stream. A field weight on a leaf of weight one gives that leaf with the field's weight
(`Expression.withBoost_term`), so the two queries have one expression and one filter expression
(`variants_eq_fields_of_oneSpanPerPosition`).
-/

namespace ConceptQuery

/-! ### Stable sorting -/

/-- Merge sort keeps the order of the elements it cannot tell apart: the elements of a class that
the comparison puts before each other, both ways, come out in the order they came in. -/
theorem filter_mergeSort_of_equiv {α : Type} {le : α → α → Bool}
    (trans : ∀ a b c, le a b = true → le b c = true → le a c = true)
    (total : ∀ a b, (le a b || le b a) = true) (P : α → Bool)
    (hP : ∀ a b, P a = true → P b = true → le a b = true) (l : List α) :
    (l.mergeSort le).filter P = l.filter P := by
  have hpair : (l.filter P).Pairwise fun a b => le a b = true :=
    List.pairwise_of_forall_mem_list fun a ha b hb =>
      hP a b (List.of_mem_filter ha) (List.of_mem_filter hb)
  have hsub := (List.sublist_mergeSort trans total hpair (List.filter_sublist (l := l))).filter P
  simp only [List.filter_filter, Bool.and_self] at hsub
  have hlen := ((List.mergeSort_perm l le).filter P).length_eq
  exact (hsub.eq_of_length hlen.symm).symm

namespace Term

/-! ### Terms sorted by position -/

/-- Ordering terms by position is transitive. -/
theorem positionLe_trans (a b c : Term) :
    decide (a.position ≤ b.position) = true → decide (b.position ≤ c.position) = true →
      decide (a.position ≤ c.position) = true := by
  simp only [decide_eq_true_eq]
  exact Nat.le_trans

/-- Any two terms are ordered by position one way or the other. -/
theorem positionLe_total (a b : Term) :
    (decide (a.position ≤ b.position) || decide (b.position ≤ a.position)) = true := by
  simp only [Bool.or_eq_true, decide_eq_true_eq]
  exact Nat.le_total _ _

/-- The terms sorted by position, as a query across fields sorts them. -/
abbrev sortByPosition (terms : List Term) : List Term :=
  terms.mergeSort fun x y => x.position ≤ y.position

/-- Terms sorted by position stand in order of position. -/
theorem pairwise_sortByPosition (terms : List Term) :
    (sortByPosition terms).Pairwise fun a b => a.position ≤ b.position := by
  have h := List.pairwise_mergeSort positionLe_trans positionLe_total terms
  exact h.imp fun hab => of_decide_eq_true hab

/-- Sorting by position keeps the terms. -/
theorem mem_sortByPosition {terms : List Term} {u : Term} : u ∈ sortByPosition terms ↔ u ∈ terms :=
  (List.mergeSort_perm _ _).mem_iff

/-- The sort by position is stable: the terms of one position keep their order. -/
theorem filter_sortByPosition (terms : List Term) (p : Nat) :
    (sortByPosition terms).filter (·.position == p) = terms.filter (·.position == p) := by
  refine filter_mergeSort_of_equiv positionLe_trans positionLe_total _ (fun a b ha hb => ?_) terms
  rw [beq_iff_eq] at ha hb
  rw [ha, hb]
  exact decide_eq_true (Nat.le_refl p)

end Term

/-! ### The groups of a query across fields -/

namespace FieldsQuery

/-- The texts of the terms at position `p`, in order. -/
def textsAt (l : List Term) (p : Nat) : List String := (l.filter (·.position == p)).map Term.text

/-- No terms have no texts at any position. -/
@[simp] theorem textsAt_nil (p : Nat) : textsAt [] p = [] := rfl

/-- A term at the position gives its text first. -/
theorem textsAt_cons_of_eq {t : Term} {l : List Term} {p : Nat} (h : t.position = p) :
    textsAt (t :: l) p = t.text :: textsAt l p := by
  simp [textsAt, h]

/-- A term at another position gives no text. -/
theorem textsAt_cons_of_ne {t : Term} {l : List Term} {p : Nat} (h : t.position ≠ p) :
    textsAt (t :: l) p = textsAt l p := by
  simp [textsAt, h]

/-- Terms none of which stands at the position give no text there. -/
theorem textsAt_eq_nil {l : List Term} {p : Nat} (h : ∀ u ∈ l, u.position ≠ p) :
    textsAt l p = [] := by
  simp only [textsAt, List.map_eq_nil_iff, List.filter_eq_nil_iff, beq_iff_eq]
  exact h

/-- The texts at a position are those of the terms standing there. -/
theorem mem_textsAt {l : List Term} {p : Nat} {w : String} :
    w ∈ textsAt l p ↔ ∃ u ∈ l, u.position = p ∧ u.text = w := by
  simp [textsAt, and_assoc]

/-- The texts at a position are the same in every stable sort by position. -/
theorem textsAt_sortByPosition (terms : List Term) (p : Nat) :
    textsAt (Term.sortByPosition terms) p = textsAt terms p := by
  rw [textsAt, Term.filter_sortByPosition, textsAt]

/-- Grouping terms sorted by position: one group per position that has terms, positions
increasing, each group the texts of its position's terms in order. The induction follows the
grouping, which compares each term with the next one. -/
theorem groupByPosition_eq (l : List Term) (hl : l.Pairwise fun a b => a.position ≤ b.position) :
    ∃ ps : List Nat, ps.Pairwise (· < ·) ∧ (∀ p, p ∈ ps ↔ ∃ u ∈ l, u.position = p) ∧
      groupByPosition l = ps.map (textsAt l) := by
  induction l with
  | nil => exact ⟨[], List.Pairwise.nil, by simp, rfl⟩
  | cons t rest ih =>
    rw [List.pairwise_cons] at hl
    obtain ⟨ps, hps, hmem, hg⟩ := ih hl.2
    cases rest with
    | nil =>
      -- One term, one group.
      refine ⟨[t.position], List.pairwise_singleton _ _, by simp [eq_comm], ?_⟩
      simp [groupByPosition, textsAt]
    | cons u rest =>
      -- The first group of the rest is the position of its first term `u`.
      obtain ⟨p0, ps, rfl⟩ : ∃ p0 ps', ps = p0 :: ps' := by
        cases ps with
        | nil => exact absurd ((hmem u.position).2 ⟨u, List.mem_cons_self, rfl⟩) List.not_mem_nil
        | cons p0 ps' => exact ⟨p0, ps', rfl⟩
      rw [List.pairwise_cons] at hps
      have hp0 : p0 = u.position := by
        obtain ⟨v, hv, hvp⟩ := (hmem p0).1 List.mem_cons_self
        have huv : u.position ≤ v.position := by
          rcases List.mem_cons.1 hv with rfl | hv
          · exact Nat.le_refl _
          · exact (List.pairwise_cons.1 hl.2).1 v hv
        rcases List.mem_cons.1 ((hmem u.position).2 ⟨u, List.mem_cons_self, rfl⟩) with h | h
        · exact h.symm
        · have := hps.1 _ h
          omega
      have htu : t.position ≤ u.position := hl.1 u List.mem_cons_self
      -- Every later group is at a position past the first.
      have hlater : ∀ p ∈ ps, t.position ≠ p := fun p hp => by
        have := hps.1 p hp
        omega
      have hrest : ps.map (textsAt (t :: u :: rest)) = ps.map (textsAt (u :: rest)) :=
        List.map_congr_left fun p hp => textsAt_cons_of_ne (hlater p hp)
      rw [groupByPosition, hg, List.map_cons]
      by_cases hsame : u.position = t.position
      · -- The first term joins the first group.
        refine ⟨p0 :: ps, List.pairwise_cons.2 hps, fun p => ?_, ?_⟩
        · rw [hmem]
          constructor
          · rintro ⟨v, hv, rfl⟩
            exact ⟨v, List.mem_cons_of_mem t hv, rfl⟩
          · rintro ⟨v, hv, rfl⟩
            rcases List.mem_cons.1 hv with rfl | hv
            · exact ⟨u, List.mem_cons_self, hsame⟩
            · exact ⟨v, hv, rfl⟩
        · simp only [hsame, beq_self_eq_true, if_true, List.map_cons]
          rw [textsAt_cons_of_eq (l := u :: rest) (show t.position = p0 by omega), hrest]
      · -- The first term opens a group of its own.
        have hlt : t.position < u.position := by omega
        refine ⟨t.position :: p0 :: ps, ?_, fun p => ?_, ?_⟩
        · refine List.pairwise_cons.2 ⟨fun p hp => ?_, List.pairwise_cons.2 hps⟩
          rcases List.mem_cons.1 hp with rfl | hp
          · omega
          · have := hps.1 p hp
            omega
        · rw [List.mem_cons, hmem]
          conv_rhs => rw [List.exists_mem_cons_iff]
          exact or_congr eq_comm Iff.rfl
        · have hnone : textsAt (u :: rest) t.position = [] :=
            textsAt_eq_nil fun v hv hvt => by
              rcases List.mem_cons.1 hv with rfl | hv
              · omega
              · have := (List.pairwise_cons.1 hl.2).1 v hv
                omega
          have hbeq : (u.position == t.position) = false := by simpa using hsame
          simp only [hbeq, Bool.false_eq_true, if_false, List.map_cons]
          rw [textsAt_cons_of_eq rfl, hnone, textsAt_cons_of_ne (show t.position ≠ p0 by omega),
            hrest]

/-- Every group of terms sorted by position is all the texts of one term's position. -/
theorem mem_groupByPosition {l : List Term} (hl : l.Pairwise fun a b => a.position ≤ b.position)
    {texts : List String} (h : texts ∈ groupByPosition l) :
    ∃ u ∈ l, texts = textsAt l u.position := by
  obtain ⟨ps, -, hmem, hg⟩ := groupByPosition_eq l hl
  rw [hg, List.mem_map] at h
  obtain ⟨p, hp, rfl⟩ := h
  obtain ⟨u, hu, rfl⟩ := (hmem p).1 hp
  exact ⟨u, hu, rfl⟩

end FieldsQuery

/-! ### What the expressions match -/

namespace Expression

/-- Every expression of a list matches when each member does. -/
theorem acceptsAll_eq_true {d : Document} {es : List Expression} :
    acceptsAll d es = true ↔ ∀ e ∈ es, e.accepts d = true := by
  induction es with
  | nil => simp
  | cons e es ih => simp [ih]

/-- Some expression of a list matches when one member does. -/
theorem acceptsAny_eq_true {d : Document} {es : List Expression} :
    acceptsAny d es = true ↔ ∃ e ∈ es, e.accepts d = true := by
  induction es with
  | nil => simp
  | cons e es ih => simp [ih]

/-- A field weight on the term provider's leaf gives the leaf of that weight: a weight of one
leaves the leaf of weight one, and any other multiplies one by it. -/
@[simp] theorem withBoost_term (f w : String) (weight : Float32) :
    (Expression.term f w).withBoost weight = .leaf f w weight := by
  unfold withBoost
  split
  · rename_i h
    rw [Weight.eq_one_of_beq weight h]
    rfl
  · exact congrArg (leaf f w) (Weight.one_mul weight)

/-- Adding a weight of one changes nothing. -/
@[simp] theorem withBoost_one (e : Expression) : e.withBoost 1 = e := by
  unfold withBoost
  exact if_pos Weight.one_beq_one

end Expression

namespace FieldsQuery

open Expression

/-- A query over a non-empty field list exists, with weight one and the texts of its terms
grouped by position. -/
theorem new_eq_ok {fields : FieldWeights} (a : Analyzer) (text : String)
    (hne : fields.entries ≠ []) :
    new fields a text = .ok ⟨fields, a, text, 1,
      groupByPosition (Term.sortByPosition (VariantsQuery.termsOf a text))⟩ := by
  rw [new, if_neg (by simpa [FieldWeights.isEmpty] using hne)]

/-- The clause of one position: each of its texts in each field, with the field's weight. -/
def clause (fs : FieldWeights) (texts : List String) : Expression :=
  anyOf (texts.flatMap fun text => fs.entries.map fun (f, w) => .leaf f text w)

/-- The expression over fields is the conjunction of one clause per position. -/
theorem compileFor_eq (q : FieldsQuery) (fs : FieldWeights) :
    q.compileFor fs = allOf (q.positions.map (clause fs)) := rfl

/-- The clause of a position matches when one of its texts is a term of one of the fields. -/
theorem accepts_clause (fs : FieldWeights) (texts : List String) (d : Document) :
    (clause fs texts).accepts d = true ↔ ∃ w ∈ texts, ∃ f ∈ fs.names, d.hasTerm f w = true := by
  rw [clause, accepts_anyOf, acceptsAny_eq_true]
  constructor
  · rintro ⟨e, he, hacc⟩
    obtain ⟨w, hw, he⟩ := List.mem_flatMap.1 he
    obtain ⟨⟨f, weight⟩, hf, rfl⟩ := List.mem_map.1 he
    exact ⟨w, hw, f, List.mem_map_of_mem (f := Prod.fst) hf, hacc⟩
  · rintro ⟨w, hw, f, hf, hd⟩
    obtain ⟨⟨f', weight⟩, hmem, rfl⟩ := List.mem_map.1 hf
    exact ⟨.leaf f' w weight, List.mem_flatMap.2 ⟨w, hw, List.mem_map.2 ⟨(f', weight), hmem, rfl⟩⟩,
      hd⟩

/-- A query across fields matches a document when, at every position, one of the texts is a
term of one of the fields. -/
theorem accepts_compileFor (q : FieldsQuery) (fs : FieldWeights) (d : Document) :
    (q.compileFor fs).accepts d = true ↔
      ∀ texts ∈ q.positions, ∃ w ∈ texts, ∃ f ∈ fs.names, d.hasTerm f w = true := by
  rw [compileFor_eq, accepts_allOf, acceptsAll_eq_true, List.forall_mem_map]
  exact forall₂_congr fun texts _ => accepts_clause fs texts d

end FieldsQuery

namespace VariantsQuery

/-- A query over a non-empty field list exists, with the term provider, plain disjunctions,
weight one and the span tree of its terms. -/
theorem new_eq_ok {fields : FieldWeights} (a : Analyzer) (text : String)
    (hne : fields.entries ≠ []) :
    new fields a text = .ok ⟨fields, a, text, .term, .andOr, 1, SpanTree.build (termsOf a text)⟩ := by
  rw [new, if_neg (by simpa [FieldWeights.isEmpty] using hne)]

end VariantsQuery

namespace Compiler

open ConceptQuery.Concept

/-- A satisfied concept is satisfied through a writing of itself or of a concept below it. -/
theorem Satisfies.exists_writing {names : List String} {p : Provider} {d : Document} {c : Concept}
    (h : Satisfies names p d c) :
    ∃ n ∈ c.nodes, ∃ w ∈ n.writings, WritingMatches names p d w := by
  induction h with
  | writing hw hm => exact ⟨_, mem_nodes_self _, _, hw, hm⟩
  | @parts c hne _ ih =>
    -- Every child is satisfied; the first one has a matching writing below it.
    obtain ⟨x, hx⟩ := List.exists_mem_of_ne_nil _ hne
    obtain ⟨n, hn, w, hw, hm⟩ := ih x hx
    exact ⟨n, mem_nodes_of_mem_nodesAll_children (mem_nodesAll.2 ⟨x, hx, hn⟩), w, hw, hm⟩

/-- The term provider matches a writing in a field when the field has it as a term. -/
theorem writingMatches_term {names : List String} {d : Document} {w : String} :
    WritingMatches names .term d w ↔ ∃ f ∈ names, d.hasTerm f w = true := by
  simp [WritingMatches, Provider.expand, Expression.term, Expression.accepts]

end Compiler

/-! ### Flat trees compile to the fields query -/

namespace FieldWeights

/-- Every field of the unweighted list has weight one, duplicate names or not. -/
theorem weight_eq_one_of_mem_unweighted (fs : FieldWeights) : ∀ e ∈ fs.unweighted.entries, e.2 = 1 := by
  -- Each name is inserted with weight one, from the empty list.
  suffices h : ∀ (ns : List String) (acc : FieldWeights), (∀ e ∈ acc.entries, e.2 = 1) →
      ∀ e ∈ (ns.foldl (fun acc n => acc.insert n 1) acc).entries, e.2 = 1 from
    h fs.names empty (by simp [empty])
  intro ns
  induction ns with
  | nil => exact fun acc h => h
  | cons n ns ih => exact fun acc h => ih _ (weight_eq_one_of_mem_setWeight h)

end FieldWeights

namespace Compiler

variable (fields : FieldWeights) (m : CombineMode)

/-- With the term provider a writing in each field is a weighted leaf. -/
theorem mapM_expandIn_term (w : String) (fs : List (String × Float32)) :
    fs.mapM ((Compiler.mk fields .term m).expandIn w) =
      .ok (fs.map fun (f, weight) => .leaf f w weight) := by
  induction fs with
  | nil => rfl
  | cons fw fs ih =>
    obtain ⟨f, weight⟩ := fw
    rw [List.mapM_cons, expandIn_eq_ok _ rfl, ih, Expression.withBoost_term]
    rfl

/-- The term provider expands each writing, in each field, into the leaf of the writing with the
field's weight. -/
theorem expandWritings_term (ws : List String) :
    (Compiler.mk fields .term m).expandWritings ws =
      .ok (ws.flatMap fun w => fields.entries.map fun (f, weight) => .leaf f w weight) := by
  induction ws with
  | nil => rfl
  | cons w rest ih =>
    rw [expandWritings_cons, mapM_expandIn_term, ih]
    rfl

/-- Leaves compile, with the term provider and plain disjunctions, to the clauses of their
writings. -/
theorem concepts_term_of_leaves (cs : List Concept) (h : ∀ c ∈ cs, c.children = []) :
    (Compiler.mk fields .term .andOr).concepts cs =
      .ok (cs.map fun c => FieldsQuery.clause fields c.writings) := by
  induction cs with
  | nil => rfl
  | cons c rest ih =>
    have hchildren : (Compiler.mk fields .term .andOr).concepts c.children = .ok [] := by
      rw [h c List.mem_cons_self]
      rfl
    have hc := concept_eq_ok_of_leaf _ hchildren (expandWritings_term fields .andOr c.writings)
    rw [concepts_cons_eq_ok _ hc (ih fun d hd => h d (List.mem_cons_of_mem c hd)), List.map_cons]
    rfl

end Compiler

namespace SpanTree

/-- With one span per position, the writings of the built tree, concept by concept, are the
texts of the terms grouped by position: the concepts are the positions in increasing order, and
each holds its position's texts in the order of the stream. -/
theorem map_writings_build (terms : List Term) (h : Term.OneSpanPerPosition terms) :
    (build terms).concepts.map Concept.writings =
      FieldsQuery.groupByPosition (Term.sortByPosition terms) := by
  obtain ⟨hleaves, hsorted, -⟩ := build_flat terms h
  have hgroups : (build terms).GroupsBySpan terms := (build_flat terms h).2.2
  have hnodes := Concept.nodesAll_of_leaves hleaves
  have hterm : ∀ c ∈ (build terms).concepts, c.term ∈ terms := fun c hc =>
    hgroups.term_mem (by rw [hnodes]; exact hc)
  obtain ⟨ps, hps, hmem, hg⟩ :=
    FieldsQuery.groupByPosition_eq _ (Term.pairwise_sortByPosition terms)
  have hw : ∀ c ∈ (build terms).concepts,
      c.writings = FieldsQuery.textsAt (Term.sortByPosition terms) c.term.position := by
    intro c hc
    rw [(hgroups.2.1 c (by rw [hnodes]; exact hc)).2, h.filter_sameSpan (hterm c hc),
      FieldsQuery.textsAt_sortByPosition, FieldsQuery.textsAt]
  -- The concepts sit at the positions of the groups, both increasing.
  have hpos : (build terms).concepts.map (·.term.position) = ps := by
    refine List.Pairwise.eq_of_mem_iff ?_ hps fun p => ?_
    · rw [List.pairwise_map]
      exact hsorted.imp_of_mem fun ha hb hab =>
        h.position_lt_of_spanCmp (hterm _ ha) (hterm _ hb) hab
    · rw [List.mem_map, hmem]
      constructor
      · rintro ⟨c, hc, rfl⟩
        exact ⟨c.term, Term.mem_sortByPosition.2 (hterm c hc), rfl⟩
      · rintro ⟨u, hu, rfl⟩
        obtain ⟨n, hn, hnu⟩ := hgroups.exists_node (Term.mem_sortByPosition.1 hu)
        rw [hnodes] at hn
        exact ⟨n, hn, (Term.span_eq_span.1 hnu).1⟩
  calc (build terms).concepts.map Concept.writings
      = (build terms).concepts.map
          fun c => FieldsQuery.textsAt (Term.sortByPosition terms) c.term.position :=
        List.map_congr_left hw
    _ = ((build terms).concepts.map (·.term.position)).map
          (FieldsQuery.textsAt (Term.sortByPosition terms)) := by rw [List.map_map]; rfl
    _ = FieldsQuery.groupByPosition (Term.sortByPosition terms) := by rw [hpos, hg]

/-- With one span per position, the built tree compiles, with the term provider and plain
disjunctions, to the conjunction over positions of the clauses of the fields query. -/
theorem tree_build_term (fields : FieldWeights) (terms : List Term)
    (h : Term.OneSpanPerPosition terms) :
    (Compiler.mk fields .term .andOr).tree (build terms) =
      .ok (Expression.allOf ((FieldsQuery.groupByPosition (Term.sortByPosition terms)).map
        (FieldsQuery.clause fields))) := by
  rw [Compiler.tree_eq_map, Compiler.concepts_term_of_leaves fields _ (build_flat terms h).1,
    ← map_writings_build terms h, List.map_map]
  rfl

end SpanTree

open ConceptQuery.Concept Compiler

/-- Every document that a query across variants matches, with the term provider, any combine
mode and any query weight, is matched by the query across fields of the same fields and text:
taking spans into account never matches more. Both queries exist for a non-empty field list, and
the variants expression always compiles. -/
theorem variants_accepts_imp_fields_accepts (fields : FieldWeights) (a : Analyzer) (text : String)
    (hne : fields.entries ≠ []) (m : CombineMode) (b : Float32) :
    ∃ q r e, VariantsQuery.new fields a text = .ok q ∧ FieldsQuery.new fields a text = .ok r ∧
      { q with mode := m, boost := b }.toExpression = .ok e ∧
      ∀ d, e.accepts d = true → r.toExpression.accepts d = true := by
  let terms := VariantsQuery.termsOf a text
  let k : Compiler := ⟨fields, .term, m⟩
  obtain ⟨e, he, hacc⟩ := k.tree_accepts_iff_satisfies (SpanTree.build terms)
    fun _ _ _ _ _ _ => ⟨_, rfl⟩
  refine ⟨_, _, if b == 1 then e else .boost b e, VariantsQuery.new_eq_ok a text hne,
    FieldsQuery.new_eq_ok a text hne, ?_, fun d hd => ?_⟩
  · show (k.tree (SpanTree.build terms) >>= fun e => pure (if b == 1 then e else .boost b e)) = _
    rw [he]
    rfl
  have hsat : ∀ c ∈ (SpanTree.build terms).concepts, Satisfies fields.names .term d c := by
    refine (hacc d).1 ?_
    split at hd
    · exact hd
    · exact hd
  have hnested : NestedTree (SpanTree.build terms).concepts := (SpanTree.insertAll_shape _).2.1
  rw [FieldsQuery.toExpression, Expression.accepts_withBoost, FieldsQuery.accepts_compileFor]
  intro texts htexts
  obtain ⟨u, hu, rfl⟩ := FieldsQuery.mem_groupByPosition (Term.pairwise_sortByPosition terms) htexts
  -- The top-level concept above the concept of `u`'s span lies at `u`'s position.
  obtain ⟨n, hn, hnu⟩ := SpanTree.exists_node_of_mem_build (Term.mem_sortByPosition.1 hu)
  obtain ⟨c, hc, hnc⟩ := mem_nodesAll.1 hn
  obtain ⟨n', hn', w, hw, hm⟩ := (hsat c hc).exists_writing
  obtain ⟨v, hv, hvn, rfl⟩ := SpanTree.exists_term_of_mem_writings (mem_nodesAll.2 ⟨c, hc, hn'⟩) hw
  have hpos : v.position = u.position :=
    calc v.position = n'.term.position := (Term.span_eq_span.1 hvn).1
      _ = c.term.position := hnested.position_eq hc hn'
      _ = n.term.position := (hnested.position_eq hc hnc).symm
      _ = u.position := (Term.span_eq_span.1 hnu).1
  obtain ⟨f, hf, hdf⟩ := writingMatches_term.1 hm
  exact ⟨v.text, FieldsQuery.mem_textsAt.2 ⟨v, Term.mem_sortByPosition.2 hv, hpos, rfl⟩, f, hf, hdf⟩

/-- Two fields and a text whose terms overlap and stack (a compound with its parts and a second
reading), under soft disjunctions and a query weight of two. -/
theorem variants_accepts_imp_fields_accepts_overlapping :
    let fields : FieldWeights := ⟨[("title", 2), ("body", 1)], by decide⟩
    let a : Analyzer := .replay [⟨"wi-fi", 1, 0, 5, false, 1⟩, ⟨"wi", 1, 0, 2, false, 0⟩,
      ⟨"fi", 1, 3, 5, false, 0⟩, ⟨"wifi", 1, 0, 5, false, 0⟩, ⟨"router", 2, 6, 12, false, 1⟩]
    fields.entries ≠ [] ∧
      ∃ q r e, VariantsQuery.new fields a "wi-fi router" = .ok q ∧
        FieldsQuery.new fields a "wi-fi router" = .ok r ∧
        { q with mode := .disMax 0.3, boost := 2 }.toExpression = .ok e ∧
        ∀ d, e.accepts d = true → r.toExpression.accepts d = true := by
  intro fields a
  have hne : fields.entries ≠ [] := List.cons_ne_nil _ _
  exact ⟨hne, variants_accepts_imp_fields_accepts fields a "wi-fi router" hne (.disMax 0.3) 2⟩

/-- When every position of the analyzed text has one span, the query across variants (term
provider, plain disjunctions, weight one) and the query across fields over the same non-empty
fields have the same scoring expression and the same filter expression, clause for clause and
weight for weight. -/
theorem variants_eq_fields_of_oneSpanPerPosition (fields : FieldWeights) (a : Analyzer)
    (text : String) (hne : fields.entries ≠ [])
    (h : Term.OneSpanPerPosition (VariantsQuery.termsOf a text)) :
    ∃ q r, VariantsQuery.new fields a text = .ok q ∧ FieldsQuery.new fields a text = .ok r ∧
      q.toExpression = .ok r.toExpression ∧ q.toFilterExpression = .ok r.toFilterExpression := by
  let terms := VariantsQuery.termsOf a text
  let r : FieldsQuery := ⟨fields, a, text, 1, FieldsQuery.groupByPosition (Term.sortByPosition terms)⟩
  have htree : ∀ fs, (Compiler.mk fs .term .andOr).tree (SpanTree.build terms) = .ok (r.compileFor fs) :=
    fun fs => SpanTree.tree_build_term fs terms h
  refine ⟨_, r, VariantsQuery.new_eq_ok a text hne, FieldsQuery.new_eq_ok a text hne, ?_, ?_⟩
  · -- Both weights are one: the variants query keeps its expression, the fields query too.
    show ((Compiler.mk fields .term .andOr).tree (SpanTree.build terms) >>= fun e =>
      pure (if (1 : Float32) == 1 then e else .boost 1 e)) = .ok ((r.compileFor fields).withBoost 1)
    rw [htree, Expression.withBoost_one]
    exact congrArg Except.ok (if_pos Weight.one_beq_one)
  · -- The unweighted fields compile alike; removing the scores changes nothing on weights of one.
    show ((Compiler.mk fields.unweighted .term .andOr).tree (SpanTree.build terms) >>= fun e =>
      pure e.withoutScoring) = .ok (r.compileFor fields.unweighted)
    rw [htree]
    show Except.ok (r.compileFor fields.unweighted).withoutScoring = _
    rw [FieldsQuery.withoutScoring_compileFor,
      FieldWeights.unweighted_eq_self (FieldWeights.weight_eq_one_of_mem_unweighted fields)]

/-- Two weighted fields and a text with two readings of one span at its first position. -/
theorem variants_eq_fields_of_oneSpanPerPosition_synonyms :
    let fields : FieldWeights := ⟨[("title", 2), ("body", 1)], by decide⟩
    let a : Analyzer := .replay [⟨"wifi", 1, 0, 4, false, 1⟩, ⟨"wlan", 1, 0, 4, false, 0⟩,
      ⟨"router", 2, 5, 11, false, 1⟩]
    fields.entries ≠ [] ∧ Term.OneSpanPerPosition (VariantsQuery.termsOf a "wifi router") ∧
      ∃ q r, VariantsQuery.new fields a "wifi router" = .ok q ∧
        FieldsQuery.new fields a "wifi router" = .ok r ∧
        q.toExpression = .ok r.toExpression ∧ q.toFilterExpression = .ok r.toFilterExpression := by
  intro fields a
  have hne : fields.entries ≠ [] := List.cons_ne_nil _ _
  have hone : Term.OneSpanPerPosition (VariantsQuery.termsOf a "wifi router") := by decide
  exact ⟨hne, hone, variants_eq_fields_of_oneSpanPerPosition fields a "wifi router" hne hone⟩

end ConceptQuery
