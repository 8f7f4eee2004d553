import ConceptQuery.Query.SpanTree
import ConceptQuery.Query.Fields
import ConceptQuery.Query.Provider
import ConceptQuery.Query.Expression.Json

/-!
# Compiling a span tree

`Compiler.tree` turns a span tree into an expression, for fields with weights, a provider and a
way to combine alternatives (`CombineMode`).

A concept's *direct* alternatives are, for each of its writings (term first, then alternates) and
each field in order, the provider's expression of the writing in the field, scaled by the field's
weight; they are combined by the mode (a disjunction, or a soft disjunction). A concept with
children also has a *decomposition*: the conjunction of its children's expressions. The concept's
expression is then the mode's combination of the direct alternatives and the decomposition, so a
document may match the whole compound or all of its parts. The tree's expression is the
conjunction of its top-level concepts, or match all when it has none.

Children are compiled before their parent's writings are expanded, and the first error of the
provider ends the compilation.

**Configuration.** A compiler configuration names whether to use soft disjunctions, their tie
breaker, and a query weight. A tie breaker must lie in `[0, 1]` and a weight must be finite and not
negative; NaN is neither.
-/

namespace ConceptQuery

/-- How the alternatives of a concept are combined.
Source: `CombineMode`. -/
inductive CombineMode where
  /-- A disjunction. -/
  | andOr
  /-- A soft disjunction with a tie breaker. -/
  | disMax (tieBreaker : Float32)

/-- A weight as written in messages. -/
def weightText (w : Float32) : String := Decimal.renderFloat32 .plain w

/-- Check that a tie breaker lies in `[0, 1]`.
Source: `validate_tie_breaker`. -/
def checkTieBreaker (tb : Float32) : Except Error Unit :=
  if 0 ≤ tb && tb ≤ 1 then .ok ()
  else .error (.configuration ("tie_breaker must be within [0, 1], got " ++ weightText tb))

namespace CombineMode

/-- The soft disjunction mode, with its tie breaker checked.
Source: `CombineMode::dis_max`. -/
def checkedDisMax (tb : Float32) : Except Error CombineMode := do
  checkTieBreaker tb
  pure (.disMax tb)

/-- Combine alternatives.
Source: `CombineMode::combine`. -/
def combine : CombineMode → List Expression → Expression
  | .andOr, es => Expression.anyOf es
  | .disMax tb, es => Expression.softAnyOf tb es

/-- `and_or` or `dis_max`.
Source: the mode names in `TreeCompiler::compile`. -/
def name : CombineMode → String
  | .andOr => "and_or"
  | .disMax _ => "dis_max"

/-- `AndOr` or `DisMax { tie_breaker: TB }`, the debugging description of a mode.
Source: `CombineMode::fmt`. -/
def describe : CombineMode → String
  | .andOr => "AndOr"
  | .disMax tb =>
    "DisMax \x7b tie_breaker: " ++ Decimal.renderFloat32 .inspect tb ++ " \x7d"

end CombineMode

/-- Settings of a compiled query.
Source: `CompilerConfig`. -/
structure CompilerConfig where
  /-- Whether alternatives combine by their best score. -/
  useDisMax : Bool := false
  /-- The share of the other alternatives' scores, in `[0, 1]`. -/
  tieBreaker : Float32 := 0
  /-- The weight of the whole query. -/
  boost : Float32 := 1

namespace CompilerConfig

/-- Check the tie breaker, then the weight.
Source: `CompilerConfig::validate`. -/
def validate (c : CompilerConfig) : Except Error Unit := do
  checkTieBreaker c.tieBreaker
  if c.boost.isFinite && !(c.boost < 0) then pure ()
  else throw (.configuration ("boost must be a non-negative number, got " ++ weightText c.boost))

/-- The combine mode of a valid configuration.
Source: `CompilerConfig::combine_mode`. -/
def combineMode (c : CompilerConfig) : Except Error CombineMode := do
  c.validate
  if c.useDisMax then CombineMode.checkedDisMax c.tieBreaker else pure .andOr

/-- The settings in their JSON form: an object whose members `use_dis_max` (a boolean),
`tie_breaker` and `boost` (numbers, each rounded once to a single) are each optional, other
members being ignored, or an array of up to three values in that order. Missing settings take
their defaults.
Source: `CompilerConfig::deserialize`. -/
def ofJson? (j : Json) : Option CompilerConfig := do
  let fs ← Expression.recordFields? j ["use_dis_max", "tie_breaker", "boost"]
  match fs with
  | [d, t, b] =>
    let useDisMax ← match d with
      | none => some false
      | some v => v.bool?
    let tieBreaker ← match t with
      | none => some 0
      | some v => Expression.weightOfJson? v
    let boost ← match b with
      | none => some 1
      | some v => Expression.weightOfJson? v
    pure ⟨useDisMax, tieBreaker, boost⟩
  | _ => none

end CompilerConfig

/-- What a compilation uses: fields with weights, a provider and a combine mode.
Source: `TreeCompiler`. -/
structure Compiler where
  /-- The fields, with their weights. -/
  fields : FieldWeights
  /-- How a field and a writing become an expression. -/
  provider : Provider
  /-- How the alternatives of a concept combine. -/
  mode : CombineMode

namespace Compiler

/-- The provider's expressions of the writings, for each writing each field, scaled by the
field's weight.
Source: `TreeCompiler::expand_writings`. -/
def expandWritings (k : Compiler) : List String → Except Error (List Expression)
  | [] => pure []
  | w :: rest => do
    let here ← k.fields.entries.mapM fun (f, weight) => do
      let e ← k.provider.expand f w
      pure (e.withBoost weight)
    let more ← k.expandWritings rest
    pure (here ++ more)

mutual

/-- The expression of a concept.
Source: `TreeCompiler::compile_node`. -/
def concept (k : Compiler) : Concept → Except Error Expression
  | ⟨term, alts, children⟩ => do
    let parts ← k.concepts children
    let direct := k.mode.combine (← k.expandWritings (term.text :: alts))
    match parts with
    | [] => pure direct
    | _ => pure (k.mode.combine [direct, Expression.allOf parts])

/-- The expressions of concepts, in order.
Source: the children loop of `TreeCompiler::compile_node`. -/
def concepts (k : Compiler) : List Concept → Except Error (List Expression)
  | [] => pure []
  | c :: rest => do
    let e ← k.concept c
    let more ← k.concepts rest
    pure (e :: more)

end

/-- The expression of a tree: the conjunction of its concepts, or match all without concepts.
Source: `TreeCompiler::compile`. -/
def tree (k : Compiler) (t : SpanTree) : Except Error Expression := do
  let parts ← k.concepts t.concepts
  pure (match parts with
    | [] => .matchAll
    | _ => Expression.allOf parts)

/-- What compiling a tree reports.
Source: the log line of `TreeCompiler::compile`. -/
def treeNote (k : Compiler) (t : SpanTree) (e : Expression) : LogLine :=
  ⟨.debug, "Compiled " ++ toString t.conceptCount ++ " concepts over " ++
    toString k.fields.size ++ " fields into " ++ toString e.leafCount ++ " leaves (" ++
    k.mode.name ++ " mode)"⟩

end Compiler

end ConceptQuery
