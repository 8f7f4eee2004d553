import ConceptQuery.Proofs.Compile.Matching
import ConceptQuery.Proofs.SpanTree.Build
import ConceptQuery.Proofs.Fields.Names
import ConceptQuery.Query.Variants

/-!
# Every term reaches the expression once per field

A compiled tree has one leaf for each writing of each concept in each field
(`Compiler.tree_leafCount`), when every expansion of the provider is one leaf, as the term
provider's are. Nothing is dropped or repeated on the way: a weight keeps a leaf a leaf
(`Expression.leafCount_withBoost`), the collapsing constructors keep every clause
(`Expression.leafCount_allOf`, `Expression.leafCount_anyOf`), and the conjunction of a concept's
children adds their leaves to those of its writings (`CombineMode.leafCount_join`).

A built tree holds every term once as a writing (`SpanTree.length_writings_build`), whatever the
spans. So a tree built from terms compiles, with the term provider, into as many leaves as
fields times terms, and the scoring and filter expressions of a query have as many leaves as
fields times the tokens its analyzer kept (`leafCount_eq_size_mul_length`): the query weight is a
wrapper, dropping the weights keeps the leaves (`Expression.leafCount_withoutScoring`), and the
unweighted fields are as many as the fields.
-/

namespace ConceptQuery

namespace Expression

/-! ### Leaves through the constructors -/

/-- The leaves of two lists of expressions add up. -/
theorem leafCountAll_append (es es' : List Expression) :
    leafCountAll (es ++ es') = leafCountAll es + leafCountAll es' := by
  induction es with
  | nil => simp [leafCountAll]
  | cons e es ih =>
    simp only [List.cons_append, leafCountAll, ih]
    omega

/-- A weight keeps the leaves: a leaf stays a leaf, anything else is at most wrapped. -/
@[simp] theorem leafCount_withBoost (e : Expression) (w : Float32) :
    (e.withBoost w).leafCount = e.leafCount := by
  unfold withBoost
  split
  · rfl
  · cases e <;> rfl

/-- A conjunction has the leaves of its clauses. -/
@[simp] theorem leafCount_allOf (es : List Expression) : (allOf es).leafCount = leafCountAll es := by
  match es with
  | [] => rfl
  | [e] => simp [allOf, leafCountAll]
  | _ :: _ :: _ => rfl

/-- A disjunction has the leaves of its clauses. -/
@[simp] theorem leafCount_anyOf (es : List Expression) : (anyOf es).leafCount = leafCountAll es := by
  match es with
  | [] => rfl
  | [e] => simp [anyOf, leafCountAll]
  | _ :: _ :: _ => rfl

/-- A soft disjunction has the leaves of its clauses. -/
@[simp] theorem leafCount_softAnyOf (tb : Float32) (es : List Expression) :
    (softAnyOf tb es).leafCount = leafCountAll es := by
  match es with
  | [] => rfl
  | [e] => simp [softAnyOf, leafCountAll]
  | _ :: _ :: _ => rfl

mutual

/-- Dropping the weights keeps every leaf. -/
theorem leafCount_withoutScoring : ∀ e : Expression, e.withoutScoring.leafCount = e.leafCount
  | .leaf .. => rfl
  | .and cs | .or cs | .softOr _ cs => by
    simp only [withoutScoring, leafCount]
    exact leafCountAll_withoutScoringAll cs
  | .boost _ inner => by
    simp only [withoutScoring, leafCount]
    exact leafCount_withoutScoring inner
  | .matchAll | .matchNone => rfl

/-- Dropping the scoring of expressions keeps their leaves. -/
theorem leafCountAll_withoutScoringAll :
    ∀ cs, leafCountAll (withoutScoringAll cs) = leafCountAll cs
  | [] => rfl
  | e :: rest => by
    simp only [withoutScoringAll, leafCountAll]
    rw [leafCount_withoutScoring e, leafCountAll_withoutScoringAll rest]

end

end Expression

open Expression

/-- Combining alternatives in either mode keeps their leaves. -/
@[simp] theorem CombineMode.leafCount_combine (m : CombineMode) (es : List Expression) :
    (m.combine es).leafCount = leafCountAll es := by
  cases m <;> simp [combine]

/-- A concept's expression has the leaves of its writings' expansions and of its children. -/
theorem CombineMode.leafCount_join (m : CombineMode) (direct parts : List Expression) :
    (m.join direct parts).leafCount = leafCountAll direct + leafCountAll parts := by
  cases parts with
  | nil => simp [join, leafCountAll]
  | cons p ps => simp [join, leafCountAll]

namespace Compiler

open ConceptQuery.Concept

/-! ### One leaf per writing per field -/

section SingleLeaf

variable (k : Compiler)
  (hp : ∀ f w, ∃ e, k.provider.expand f w = .ok e ∧ e.leafCount = 1)
include hp

/-- A writing expanded in each field gives one leaf per field. -/
theorem mapM_expandIn_leafCount (w : String) (fs : List (String × Float32)) :
    ∃ es, fs.mapM (k.expandIn w) = .ok es ∧ leafCountAll es = fs.length := by
  induction fs with
  | nil => exact ⟨[], rfl, rfl⟩
  | cons fw fs ih =>
    obtain ⟨e, he, hone⟩ := hp fw.1 w
    obtain ⟨es, hes, hcount⟩ := ih
    refine ⟨e.withBoost fw.2 :: es, ?_, ?_⟩
    · rw [List.mapM_cons, k.expandIn_eq_ok he, hes]
      rfl
    · simp only [leafCountAll, leafCount_withBoost, hone, hcount, List.length_cons]
      omega

/-- Writings expanded in each field give one leaf per writing per field. -/
theorem expandWritings_leafCount (ws : List String) :
    ∃ es, k.expandWritings ws = .ok es ∧ leafCountAll es = k.fields.size * ws.length := by
  induction ws with
  | nil => exact ⟨[], rfl, by simp [leafCountAll]⟩
  | cons w rest ih =>
    obtain ⟨here, hhere, hcount⟩ := k.mapM_expandIn_leafCount hp w k.fields.entries
    obtain ⟨more, hmore, hcount'⟩ := ih
    refine ⟨here ++ more, ?_, ?_⟩
    · rw [expandWritings_cons, hhere, hmore]
      rfl
    · rw [leafCountAll_append, hcount, hcount', List.length_cons, FieldWeights.size,
        Nat.mul_succ]
      omega

/-- Concepts compile into one leaf for each writing in or below them, in each field. The
induction follows the compiler: children, then writings, then the concepts after. -/
theorem concepts_leafCount (cs : List Concept) :
    ∃ es, k.concepts cs = .ok es ∧
      leafCountAll es = k.fields.size * ((nodesAll cs).flatMap writings).length := by
  induction cs using listInduction with
  | nil => exact ⟨[], rfl, by simp [leafCountAll]⟩
  | cons c rest ihc ihr =>
    obtain ⟨parts, hparts, hcount⟩ := ihc
    obtain ⟨es, hes, hcount'⟩ := k.expandWritings_leafCount hp c.writings
    obtain ⟨more, hmore, hcount''⟩ := ihr
    have hc : k.concept c = .ok (k.mode.join es parts) := by
      rw [concept_eq_bind, hparts, hes]
      rfl
    refine ⟨k.mode.join es parts :: more, ?_, ?_⟩
    · rw [concepts_cons, hc, hmore]
      rfl
    · simp only [leafCountAll, CombineMode.leafCount_join, hcount, hcount', hcount'',
        nodesAll_cons, nodes_eq, List.cons_append, List.flatMap_cons, List.flatMap_append,
        List.length_append]
      rw [Nat.mul_add, Nat.mul_add]
      omega

/-- A tree compiles into one leaf for each writing of each concept, in each field. -/
theorem tree_leafCount (t : SpanTree) :
    ∃ e, k.tree t = .ok e ∧
      e.leafCount = k.fields.size * ((nodesAll t.concepts).flatMap writings).length := by
  obtain ⟨parts, hparts, hcount⟩ := k.concepts_leafCount hp t.concepts
  refine ⟨allOf parts, ?_, ?_⟩
  · rw [tree_eq_map, hparts]
    rfl
  · rw [leafCount_allOf, hcount]

end SingleLeaf

/-- Every expansion of the term provider is one leaf. -/
theorem term_expand_leafCount (f w : String) :
    ∃ e, Provider.term.expand f w = .ok e ∧ e.leafCount = 1 :=
  ⟨_, rfl, rfl⟩

end Compiler

/-! ### Terms, tokens and writings -/

namespace SpanTree

open ConceptQuery.Concept

/-- A built tree holds each term once as a writing. -/
theorem length_writings_build (terms : List Term) :
    ((nodesAll (build terms).concepts).flatMap writings).length = terms.length := by
  have h := (writings_insertAll empty (Term.sortBySpan terms)).length_eq
  have hempty : nodesAll empty.concepts = [] := rfl
  rw [List.length_append, List.length_map, (Term.perm_sortBySpan terms).length_eq, hempty,
    List.flatMap_nil, List.length_nil, Nat.zero_add] at h
  exact h

end SpanTree

namespace Term

/-- The terms of a token stream are its tokens that are not stopped, one each. -/
theorem length_collectFrom (position : Nat) (tokens : List Token) :
    (collectFrom position tokens).length = (tokens.filter fun t => !t.stopped).length := by
  induction tokens generalizing position with
  | nil => rfl
  | cons t rest ih =>
    cases h : t.stopped
    · simp [collectFrom, h, ih]
    · simp [collectFrom, h, ih]

/-- A stream read as terms gives one term per token that is not stopped. -/
theorem length_collect (tokens : List Token) :
    (collect tokens).length = (tokens.filter fun t => !t.stopped).length :=
  length_collectFrom 0 tokens

end Term

namespace VariantsQuery

section TermProvider

variable {q : VariantsQuery} (ht : q.tree = SpanTree.build (termsOf q.analyzer q.text))
include ht

/-- The tree of a query holds one writing for each token its analyzer kept. -/
theorem length_writings_tree :
    ((Concept.nodesAll q.tree.concepts).flatMap Concept.writings).length =
      ((q.analyzer.analyze q.text).filter fun t => !t.stopped).length := by
  rw [ht, SpanTree.length_writings_build, termsOf, Term.length_collect]

variable (hp : q.provider = .term)
include hp

omit ht in
/-- The term provider expands a writing to one leaf. -/
theorem expand_leafCount (f w : String) :
    ∃ e, q.provider.expand f w = .ok e ∧ e.leafCount = 1 := by
  rw [hp]
  exact Compiler.term_expand_leafCount f w

/-- With the term provider the scoring expression has one leaf per field per kept token. -/
theorem leafCount_toExpression :
    ∃ e, q.toExpression = .ok e ∧
      e.leafCount = q.fields.size * ((q.analyzer.analyze q.text).filter fun t => !t.stopped).length := by
  obtain ⟨e, he, hcount⟩ := q.compiler.tree_leafCount (expand_leafCount hp) q.tree
  -- A query weight other than one wraps the expression and keeps its leaves.
  refine ⟨if q.boost == 1 then e else .boost q.boost e, ?_, ?_⟩
  · rw [toExpression, he]
    rfl
  · rw [← length_writings_tree ht]
    split <;> exact hcount

/-- With the term provider the filter expression has one leaf per field per kept token. -/
theorem leafCount_toFilterExpression :
    ∃ e, q.toFilterExpression = .ok e ∧
      e.leafCount = q.fields.size * ((q.analyzer.analyze q.text).filter fun t => !t.stopped).length := by
  let k : Compiler := ⟨q.fields.unweighted, q.provider, .andOr⟩
  obtain ⟨e, he, hcount⟩ := k.tree_leafCount (expand_leafCount hp) q.tree
  refine ⟨e.withoutScoring, ?_, ?_⟩
  · rw [toFilterExpression, show Compiler.mk q.fields.unweighted q.provider .andOr = k from rfl, he]
    rfl
  · rw [leafCount_withoutScoring, hcount, ← length_writings_tree ht,
      show k.fields = q.fields.unweighted from rfl, FieldWeights.size_unweighted]

end TermProvider

end VariantsQuery

/-- With the term provider, a tree built from any terms compiles, for any fields and combine
mode, into as many leaves as fields times terms. So a query across variants made for any fields,
then given any combine mode and query weight, has scoring and filter expressions
with as many leaves as fields times the tokens its analyzer kept for its text: every token
reaches the expression once per field. -/
theorem leafCount_eq_size_mul_length :
    (∀ (terms : List Term) (fs : FieldWeights) (m : CombineMode),
      ∃ e, (Compiler.mk fs .term m).tree (SpanTree.build terms) = .ok e ∧
        e.leafCount = fs.size * terms.length) ∧
    ∀ (fs : FieldWeights) (a : Analyzer) (text : String) (q : VariantsQuery),
      VariantsQuery.new fs a text = .ok q → ∀ (m : CombineMode) (b : Float32),
        let n := ((a.analyze text).filter fun t => !t.stopped).length
        (∃ e, { q with mode := m, boost := b }.toExpression = .ok e ∧ e.leafCount = fs.size * n) ∧
        (∃ e, { q with mode := m, boost := b }.toFilterExpression = .ok e ∧
          e.leafCount = fs.size * n) := by
  constructor
  · intro terms fs m
    rw [← SpanTree.length_writings_build terms]
    exact Compiler.tree_leafCount _ Compiler.term_expand_leafCount _
  · intro fs a text q hq m b
    -- A new query has the term provider and the tree of its text; the mode and weight are free.
    unfold VariantsQuery.new at hq
    split at hq
    · cases hq
    · rw [Except.ok.injEq] at hq
      subst hq
      exact ⟨VariantsQuery.leafCount_toExpression rfl rfl,
        VariantsQuery.leafCount_toFilterExpression rfl rfl⟩

/-- Three words in a weighted title and a body, compiled with soft disjunctions and a query
weight of two. -/
theorem leafCount_eq_size_mul_length_three_words :
    let fs : FieldWeights := ⟨[("title", 3), ("body", 1)], by decide⟩
    let a : Analyzer := .replay [⟨"x", 0, 0, 1, false, 1⟩, ⟨"y", 0, 2, 3, false, 1⟩,
      ⟨"z", 0, 4, 5, false, 1⟩]
    let q : VariantsQuery :=
      ⟨fs, a, "x y z", .term, .andOr, 1, SpanTree.build (VariantsQuery.termsOf a "x y z")⟩
    let n := ((a.analyze "x y z").filter fun t => !t.stopped).length
    VariantsQuery.new fs a "x y z" = .ok q ∧
      (∃ e, { q with mode := .disMax 0.5, boost := 2 }.toExpression = .ok e ∧
        e.leafCount = fs.size * n) ∧
      (∃ e, { q with mode := .disMax 0.5, boost := 2 }.toFilterExpression = .ok e ∧
        e.leafCount = fs.size * n) :=
  ⟨rfl, leafCount_eq_size_mul_length.2 _ _ _ _ rfl (.disMax 0.5) 2⟩

end ConceptQuery
