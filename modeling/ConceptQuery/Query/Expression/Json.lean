import ConceptQuery.Query.Expression.Basic
import ConceptQuery.Json.Value

/-!
# Expressions as JSON

An expression is written as JSON by naming its kind:

* `{"leaf": {"field": F, "term": T, "boost": B}}`
* `{"and": [...]}` and `{"or": [...]}`
* `{"soft_or": {"tie_breaker": TB, "clauses": [...]}}`
* `{"boost": {"boost": B, "expression": E}}`
* `"match_all"` and `"match_none"`

`Expression.toJson` writes this form with the members in the order above. `Expression.ofJson?`
reads it back: a kind is an object with exactly one member, or the bare name of a constant (whose
member form holds `null`); the members of a kind's record may come in any order and unknown ones
are ignored, and the record may also be an array of its members in the order above. Weights are
read as singles.
-/

namespace ConceptQuery

namespace Expression

mutual

/-- The JSON form of an expression.
Source: `Expression::serialize`. -/
def toJson : Expression → Json
  | .leaf f t b =>
    .object [("leaf", .object [("field", .string f), ("term", .string t), ("boost", .ofFloat32 b)])]
  | .and cs => .object [("and", .array (toJsonAll cs))]
  | .or cs => .object [("or", .array (toJsonAll cs))]
  | .softOr tb cs =>
    .object [("soft_or", .object [("tie_breaker", .ofFloat32 tb), ("clauses", .array (toJsonAll cs))])]
  | .boost w inner =>
    .object [("boost", .object [("boost", .ofFloat32 w), ("expression", toJson inner)])]
  | .matchAll => .string "match_all"
  | .matchNone => .string "match_none"

/-- The JSON forms of expressions. -/
def toJsonAll : List Expression → List Json
  | [] => []
  | e :: rest => toJson e :: toJsonAll rest

end

/-- A weight read from JSON. -/
def weightOfJson? : Json → Option Float32
  | .number n => some n.toFloat32
  | _ => none

/-- The members of a record given as an object (by name) or as an array (by place): the values
of `names`, each present or missing. An array longer than the record is refused. -/
def recordFields? (j : Json) (names : List String) : Option (List (Option Json)) :=
  match j with
  | .object ms => some (names.map fun n => (ms.find? (·.1 == n)).map Prod.snd)
  | .array xs => if xs.length ≤ names.length then some (names.zipIdx.map fun (_, i) => xs[i]?) else none
  | _ => none

mutual

/-- Read an expression from its JSON form, with `fuel` bounding the nesting. -/
def ofJsonFuel : Nat → Json → Option Expression
  | 0, _ => none
  | _ + 1, .string "match_all" => some .matchAll
  | _ + 1, .string "match_none" => some .matchNone
  | fuel + 1, .object [(kind, body)] =>
    match kind with
    | "leaf" => do
      let fs ← recordFields? body ["field", "term", "boost"]
      match fs with
      | [some (.string f), some (.string t), some b] => pure (.leaf f t (← weightOfJson? b))
      | _ => none
    | "and" => do pure (.and (← ofJsonList fuel (← body.items?)))
    | "or" => do pure (.or (← ofJsonList fuel (← body.items?)))
    | "soft_or" => do
      let fs ← recordFields? body ["tie_breaker", "clauses"]
      match fs with
      | [some tb, some (.array cs)] => pure (.softOr (← weightOfJson? tb) (← ofJsonList fuel cs))
      | _ => none
    | "boost" => do
      let fs ← recordFields? body ["boost", "expression"]
      match fs with
      | [some w, some inner] => pure (.boost (← weightOfJson? w) (← ofJsonFuel fuel inner))
      | _ => none
    | "match_all" => if body matches .null then some .matchAll else none
    | "match_none" => if body matches .null then some .matchNone else none
    | _ => none
  | _ + 1, _ => none

/-- Read a list of expressions. -/
def ofJsonList : Nat → List Json → Option (List Expression)
  | 0, _ => none
  | _ + 1, [] => some []
  | fuel + 1, j :: rest => do
    let e ← ofJsonFuel fuel j
    let more ← ofJsonList fuel rest
    pure (e :: more)

end

/-- Read an expression from its JSON form. Each step of the reading goes one value deeper into
the tree or one item further along a list, so twice the size of the tree is enough fuel.
Source: `Expression::deserialize`. -/
def ofJson? (j : Json) : Option Expression := ofJsonFuel (2 * j.size + 2) j

end Expression

end ConceptQuery
