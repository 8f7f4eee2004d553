import ConceptQuery.Decimal.Layout

/-!
# Match expressions

A compiled query is a boolean expression over exact terms of fields, with weights for scoring:

* a *leaf* matches documents whose field holds the term, and carries a boost;
* *and* matches when every clause does, *or* when some clause does;
* *soft or* matches like *or*; for scoring it takes the best clause and adds the others scaled by
  its tie breaker;
* *boost* scales the score of the expression it wraps;
* *match all* and *match none* are the constants.

The collapsing constructors `allOf`, `anyOf` and `softAnyOf` never build a conjunction or a
disjunction of fewer than two clauses: no clause gives the neutral constant (match all for a
conjunction, match none for a disjunction), and one clause stands for itself.

`Expression.render` is the query syntax: `field:term^2`, `(+a +b)`, `(a b)`, `(a | b)~0.1`,
`EXPR^2`, `*:*`, `-*:*`. Weights are written with `FloatStyle.plain`.
-/

namespace ConceptQuery

/-- A match expression.
Source: `Expression`. -/
inductive Expression where
  /-- Documents whose field holds the term. -/
  | leaf (field term : String) (boost : Float32)
  /-- Documents that every clause matches. -/
  | and (clauses : List Expression)
  /-- Documents that some clause matches. -/
  | or (clauses : List Expression)
  /-- Documents that some clause matches, scored by the best clause plus the others scaled by
  the tie breaker. -/
  | softOr (tieBreaker : Float32) (clauses : List Expression)
  /-- The wrapped expression with its score scaled. -/
  | boost (weight : Float32) (inner : Expression)
  /-- Every document. -/
  | matchAll
  /-- No document. -/
  | matchNone

namespace Expression

/-- A leaf of weight one.
Source: `Expression::leaf`. -/
def term (field term : String) : Expression := .leaf field term 1

/-- The conjunction of clauses: match all for none, the clause itself for one.
Source: `Expression::and`. -/
def allOf : List Expression → Expression
  | [] => .matchAll
  | [e] => e
  | es => .and es

/-- The disjunction of clauses: match none for none, the clause itself for one.
Source: `Expression::or`. -/
def anyOf : List Expression → Expression
  | [] => .matchNone
  | [e] => e
  | es => .or es

/-- The soft disjunction of clauses: match none for none, the clause itself for one.
Source: `Expression::soft_or`. -/
def softAnyOf (tieBreaker : Float32) : List Expression → Expression
  | [] => .matchNone
  | [e] => e
  | es => .softOr tieBreaker es

/-- Scale the score of an expression by `w`: nothing changes for a weight of one; a leaf's boost
or a boost's weight is multiplied; anything else is wrapped.
Source: `Expression::with_boost`. -/
def withBoost (e : Expression) (w : Float32) : Expression :=
  if w == 1 then e
  else
    match e with
    | .leaf f t b => .leaf f t (b * w)
    | .boost b inner => .boost (b * w) inner
    | other => .boost w other

mutual

/-- The same matches without scoring: leaves of weight one, soft disjunctions made plain, boosts
removed.
Source: `Expression::without_scoring`. -/
def withoutScoring : Expression → Expression
  | .leaf f t _ => .leaf f t 1
  | .and cs => .and (withoutScoringAll cs)
  | .or cs => .or (withoutScoringAll cs)
  | .softOr _ cs => .or (withoutScoringAll cs)
  | .boost _ inner => withoutScoring inner
  | .matchAll => .matchAll
  | .matchNone => .matchNone

/-- `withoutScoring` on each clause. -/
def withoutScoringAll : List Expression → List Expression
  | [] => []
  | e :: rest => withoutScoring e :: withoutScoringAll rest

end

/-- Whether the expression is the constant match all.
Source: `Expression::is_match_all`. -/
def isMatchAll : Expression → Bool
  | .matchAll => true
  | _ => false

/-- The direct sub-expressions: the clauses of a combination, the wrapped expression of a
boost, none for a leaf or a constant.
Source: `Expression::clauses`. -/
def clauses : Expression → List Expression
  | .and cs | .or cs | .softOr _ cs => cs
  | .boost _ inner => [inner]
  | _ => []

mutual

/-- The number of leaves.
Source: `Expression::leaf_count`. -/
def leafCount : Expression → Nat
  | .leaf .. => 1
  | .and cs | .or cs | .softOr _ cs => leafCountAll cs
  | .boost _ inner => leafCount inner
  | _ => 0

/-- The number of leaves of a list of expressions. -/
def leafCountAll : List Expression → Nat
  | [] => 0
  | e :: rest => leafCount e + leafCountAll rest

end

mutual

/-- One more than the greatest depth of the direct sub-expressions; one for a leaf or a
constant.
Source: `Expression::depth`. -/
def depth : Expression → Nat
  | .and cs | .or cs | .softOr _ cs => 1 + depthAll cs
  | .boost _ inner => 1 + depth inner
  | _ => 1

/-- The greatest depth of a list of expressions, zero for none. -/
def depthAll : List Expression → Nat
  | [] => 0
  | e :: rest => max (depth e) (depthAll rest)

end

/-- A weight as written in the query syntax. -/
def weightText (w : Float32) : String := Decimal.renderFloat32 .plain w

mutual

/-- The query syntax of an expression.
Source: `Expression::fmt`. -/
def render : Expression → String
  | .leaf f t b => f ++ ":" ++ t ++ (if b != 1 then "^" ++ weightText b else "")
  | .and cs => "(" ++ renderAll "+" " " cs ++ ")"
  | .or cs => "(" ++ renderAll "" " " cs ++ ")"
  | .softOr tb cs => "(" ++ renderAll "" " | " cs ++ ")~" ++ weightText tb
  | .boost w inner => render inner ++ "^" ++ weightText w
  | .matchAll => "*:*"
  | .matchNone => "-*:*"

/-- Expressions rendered with a prefix each and a separator between them.
Source: `write_clauses`. -/
def renderAll (pre sep : String) : List Expression → String
  | [] => ""
  | [e] => pre ++ render e
  | e :: rest => pre ++ render e ++ sep ++ renderAll pre sep rest

end

end Expression

end ConceptQuery
