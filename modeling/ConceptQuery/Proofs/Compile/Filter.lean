import ConceptQuery.Proofs.Compile.Matching
import ConceptQuery.Proofs.Fields.Names
import ConceptQuery.Query.AcrossFields

/-!
# Filter expressions: the scoring expression without its weights

A query has two expressions: the scoring one, compiled with the field weights, the combine mode
and the query weight, and the filter one, compiled again for the fields without weights in plain
disjunctions and then stripped of its weights (`Expression.withoutScoring`). The two are the same
up to scoring (`filterExpression_eq_withoutScoring`): both fail with the same error, or the filter
expression is the scoring expression with every leaf of weight one, every weight wrapper removed
and every soft disjunction made plain.

**Why.** Dropping the weights commutes with the collapsing constructors (`withoutScoring_allOf`,
`withoutScoring_anyOf`) and absorbs every weight, one or not, NaN included
(`withoutScoring_withBoost`); a soft disjunction becomes the plain one, so both modes give the same
(`CombineMode.withoutScoring_combine`). So what is left of a compilation once the weights are
dropped reads only the field names and the provider (`withoutScoring_tree_congr`), the errors
included, since both compilations call the provider on the same writings and fields in the same
order. The unweighted list has the same names (`FieldWeights.names_unweighted`).

The comparison of two compilations is carried by `map_bind_congr`: two computations that agree
once their results are mapped, continued by steps that agree on agreeing results, agree.
-/

namespace ConceptQuery

/-! ### Results that agree once mapped -/

/-- Two computations that fail alike or give results equal under `g`, each continued by steps
that agree under `h` on such results, agree under `h`. -/
theorem map_bind_congr {ε α β γ δ : Type} {x x' : Except ε α} {f f' : α → Except ε β}
    {g : α → γ} {h : β → δ} (hx : g <$> x = g <$> x')
    (hf : ∀ a a', g a = g a' → h <$> f a = h <$> f' a') :
    h <$> (x >>= f) = h <$> (x' >>= f') := by
  cases x with
  | error e =>
    cases x' with
    | error e' =>
      simp only [Except.map_error, Except.error.injEq] at hx
      rw [hx]
      rfl
    | ok a' => cases hx
  | ok a =>
    cases x' with
    | error e' => cases hx
    | ok a' =>
      simp only [Except.map_ok, Except.ok.injEq] at hx
      exact hf a a' hx

/-- Mapping the results of `mapM` is `mapM` of the mapped steps: the same first error, or the
mapped results. -/
theorem map_mapM {ε α β γ : Type} (f : α → Except ε β) (g : β → γ) (xs : List α) :
    List.map g <$> xs.mapM f = xs.mapM fun x => g <$> f x := by
  induction xs with
  | nil => rfl
  | cons x xs ih =>
    rw [List.mapM_cons, List.mapM_cons, ← ih]
    cases f x with
    | error e => rfl
    | ok b =>
      cases xs.mapM f with
      | error e => rfl
      | ok bs => rfl

namespace Expression

/-! ### Dropping the weights -/

/-- Dropping the scoring of clauses maps over them. -/
theorem withoutScoringAll_eq_map (cs : List Expression) :
    withoutScoringAll cs = cs.map withoutScoring := by
  induction cs with
  | nil => rfl
  | cons e rest ih => rw [withoutScoringAll, ih, List.map_cons]

/-- A weight, one or not, leaves nothing once the weights are dropped. -/
@[simp] theorem withoutScoring_withBoost (e : Expression) (w : Float32) :
    (e.withBoost w).withoutScoring = e.withoutScoring := by
  unfold withBoost
  split
  · rfl
  · cases e <;> rfl

/-- Dropping the scoring of a conjunction drops that of its clauses. -/
@[simp] theorem withoutScoring_allOf (es : List Expression) :
    (allOf es).withoutScoring = allOf (es.map withoutScoring) := by
  match es with
  | [] => rfl
  | [e] => rfl
  | _ :: _ :: _ => simp only [allOf, withoutScoring, withoutScoringAll_eq_map, List.map_cons]

/-- Dropping the scoring of a disjunction drops that of its clauses. -/
@[simp] theorem withoutScoring_anyOf (es : List Expression) :
    (anyOf es).withoutScoring = anyOf (es.map withoutScoring) := by
  match es with
  | [] => rfl
  | [e] => rfl
  | _ :: _ :: _ => simp only [anyOf, withoutScoring, withoutScoringAll_eq_map, List.map_cons]

/-- A soft disjunction without its weights is the plain one. -/
@[simp] theorem withoutScoring_softAnyOf (tb : Float32) (es : List Expression) :
    (softAnyOf tb es).withoutScoring = anyOf (es.map withoutScoring) := by
  match es with
  | [] => rfl
  | [e] => rfl
  | _ :: _ :: _ => simp only [softAnyOf, anyOf, withoutScoring, withoutScoringAll_eq_map,
      List.map_cons]

end Expression

open Expression

/-- Without weights both modes give the plain disjunction. -/
@[simp] theorem CombineMode.withoutScoring_combine (m : CombineMode) (es : List Expression) :
    (m.combine es).withoutScoring = anyOf (es.map withoutScoring) := by
  cases m <;> simp [combine]

/-- Without weights the expression of a concept is the one plain disjunctions give. -/
theorem CombineMode.withoutScoring_join (m : CombineMode) (direct parts : List Expression) :
    (m.join direct parts).withoutScoring =
      CombineMode.andOr.join (direct.map withoutScoring) (parts.map withoutScoring) := by
  cases parts <;> simp only [join, CombineMode.withoutScoring_combine, withoutScoring_allOf,
    List.map_cons, List.map_nil] <;> rfl

namespace Compiler

open ConceptQuery.Concept

/-! ### Compilations that agree without weights -/

/-- The expansions of a writing over fields, without weights, are the provider's expressions for
the field names: the weights of the fields are gone. -/
theorem withoutScoring_mapM_expandIn (k : Compiler) (w : String) (fs : List (String × Float32)) :
    List.map withoutScoring <$> fs.mapM (k.expandIn w) =
      (fs.map Prod.fst).mapM fun f => withoutScoring <$> k.provider.expand f w := by
  rw [map_mapM, List.mapM_map]
  congr
  funext fw
  obtain ⟨f, weight⟩ := fw
  cases k.provider.expand f w <;> simp [expandIn]

section Congr

variable {k k' : Compiler} (hn : k.fields.names = k'.fields.names)
  (hp : k.provider = k'.provider)
include hn hp

/-- Without scoring, the writings expand alike under compilers of the same field names. -/
theorem withoutScoring_expandWritings_congr (ws : List String) :
    List.map withoutScoring <$> k.expandWritings ws =
      List.map withoutScoring <$> k'.expandWritings ws := by
  induction ws with
  | nil => rfl
  | cons w rest ih =>
    have hhere : List.map withoutScoring <$> k.fields.entries.mapM (k.expandIn w) =
        List.map withoutScoring <$> k'.fields.entries.mapM (k'.expandIn w) := by
      rw [withoutScoring_mapM_expandIn, withoutScoring_mapM_expandIn, hp]
      change k.fields.names.mapM _ = k'.fields.names.mapM _
      rw [hn]
    rw [expandWritings_cons, expandWritings_cons]
    refine map_bind_congr hhere fun here here' hh => map_bind_congr ih fun more more' hm => ?_
    simp only [pure, Except.pure, Except.map_ok, List.map_append, hh, hm]

/-- Once the weights are dropped, compiling concepts reads only the field names and the provider:
the same error, or the same expressions. The induction follows the compiler, children first. -/
theorem withoutScoring_concepts_congr (cs : List Concept) :
    List.map withoutScoring <$> k.concepts cs = List.map withoutScoring <$> k'.concepts cs := by
  induction cs using listInduction with
  | nil => rfl
  | cons c rest ihc ihr =>
    have hc : withoutScoring <$> k.concept c = withoutScoring <$> k'.concept c := by
      rw [concept_eq_bind, concept_eq_bind]
      refine map_bind_congr ihc fun parts parts' hparts => ?_
      refine map_bind_congr (withoutScoring_expandWritings_congr hn hp c.writings)
        fun es es' hes => ?_
      simp only [pure, Except.pure, Except.map_ok, CombineMode.withoutScoring_join, hes, hparts]
    rw [concepts_cons, concepts_cons]
    refine map_bind_congr hc fun e e' he => map_bind_congr ihr fun more more' hm => ?_
    simp only [pure, Except.pure, Except.map_ok, List.map_cons, he, hm]

/-- Without scoring, a tree compiles alike under compilers of the same field names. -/
theorem withoutScoring_tree_congr (t : SpanTree) :
    withoutScoring <$> k.tree t = withoutScoring <$> k'.tree t := by
  rw [tree_eq_map, tree_eq_map, ← comp_map, ← comp_map]
  have hall : withoutScoring ∘ allOf = allOf ∘ List.map withoutScoring := by
    funext es
    exact withoutScoring_allOf es
  rw [hall, comp_map, comp_map, withoutScoring_concepts_congr hn hp]

end Congr

end Compiler

/-! ### The two expressions of a query -/

namespace VariantsQuery

/-- The query weight is a wrapper, which dropping the weights removes. -/
theorem withoutScoring_toExpression (q : VariantsQuery) :
    withoutScoring <$> q.toExpression = withoutScoring <$> q.compiler.tree q.tree := by
  rw [toExpression, bind_pure_comp, ← comp_map]
  congr 1
  funext e
  dsimp only [Function.comp]
  split <;> rfl

/-- The filter expression is the scoring expression without its scoring. -/
theorem toFilterExpression_eq (q : VariantsQuery) :
    q.toFilterExpression = withoutScoring <$> q.toExpression := by
  rw [withoutScoring_toExpression, toFilterExpression, bind_pure_comp]
  refine (Compiler.withoutScoring_tree_congr ?_ ?_ q.tree).symm
  · exact (FieldWeights.names_unweighted q.fields).symm
  · rfl

end VariantsQuery

namespace FieldsQuery

/-- Without weights, the expression over some fields is the one over the unweighted fields. -/
theorem withoutScoring_compileFor (q : FieldsQuery) (fs : FieldWeights) :
    (q.compileFor fs).withoutScoring = q.compileFor fs.unweighted := by
  simp [compileFor, FieldWeights.entries_unweighted, List.map_flatMap, FieldWeights.names,
    withoutScoring, Function.comp_def]

/-- The filter expression over fields is the scoring one without its weights. -/
theorem toFilterExpression_eq (q : FieldsQuery) :
    q.toFilterExpression = q.toExpression.withoutScoring := by
  rw [toExpression, withoutScoring_withBoost, withoutScoring_compileFor, toFilterExpression]

end FieldsQuery

/-- For both kinds of query, the filter expression is the scoring expression without its
weights: the same error, or the scoring expression with every leaf of weight one, every weight
wrapper removed and every soft disjunction made plain; whatever the weights, the provider, the
combine mode and the query weight. -/
theorem filterExpression_eq_withoutScoring :
    (∀ q : VariantsQuery, q.toFilterExpression = withoutScoring <$> q.toExpression) ∧
    (∀ q : FieldsQuery, q.toFilterExpression = q.toExpression.withoutScoring) :=
  ⟨VariantsQuery.toFilterExpression_eq, FieldsQuery.toFilterExpression_eq⟩

end ConceptQuery
