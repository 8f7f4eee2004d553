import ConceptQuery.Query.Variants

/-!
# Queries across fields

A query across fields ignores spans: it groups the terms of its text by position (stably sorted by
position) and asks, for every position, that one of the position's texts be found in one of the
fields. Its expression is the conjunction over positions of the disjunction, for each text and
each field, of the text in the field with the field's weight; a query weight scales the whole.
The filter form is the same over the fields without weights.
-/

namespace ConceptQuery

/-- A query across fields.
Source: `AcrossFieldsQuery`. -/
structure FieldsQuery where
  /-- The fields searched, with their weights. -/
  fields : FieldWeights
  /-- The analyzer the text was analyzed with. -/
  analyzer : Analyzer
  /-- The query text. -/
  text : String
  /-- The weight of the whole query. -/
  boost : Float32
  /-- The texts of the terms at each position, positions in increasing order. -/
  positions : List (List String)

namespace FieldsQuery

/-- Group the texts of terms sorted by position into one list per position.
Source: `group_by_position`. -/
def groupByPosition : List Term → List (List String)
  | [] => []
  | t :: rest =>
    match groupByPosition rest with
    | [] => [[t.text]]
    | g :: gs =>
      match rest with
      | u :: _ => if u.position == t.position then (t.text :: g) :: gs else [t.text] :: g :: gs
      | [] => [t.text] :: g :: gs

/-- A query over fields (at least one), for a text analyzed by an analyzer, with weight one.
Source: `AcrossFieldsQuery::new`. -/
def new (fields : FieldWeights) (a : Analyzer) (text : String) : Except Error FieldsQuery :=
  if fields.isEmpty then .error (.configuration "[across_fields] no fields given")
  else
    let terms := (VariantsQuery.termsOf a text).mergeSort fun x y => x.position ≤ y.position
    .ok ⟨fields, a, text, 1, groupByPosition terms⟩

/-- The expression over the given fields.
Source: `AcrossFieldsQuery::compile`. -/
def compileFor (q : FieldsQuery) (fs : FieldWeights) : Expression :=
  Expression.allOf (q.positions.map fun texts =>
    Expression.anyOf (texts.flatMap fun text => fs.entries.map fun (f, w) => .leaf f text w))

/-- The scoring expression.
Source: `AcrossFieldsQuery::to_expression`. -/
def toExpression (q : FieldsQuery) : Expression := (q.compileFor q.fields).withBoost q.boost

/-- The filter expression.
Source: `AcrossFieldsQuery::to_filter_expression`. -/
def toFilterExpression (q : FieldsQuery) : Expression := q.compileFor q.fields.unweighted

/-- `[FIELDS]:"TEXT"`, with `^WEIGHT` when the weight is not one.
Source: `AcrossFieldsQuery::fmt`. -/
def render (q : FieldsQuery) : String :=
  "[" ++ q.fields.render ++ "]:\"" ++ q.text ++ "\"" ++
    (if q.boost != 1 then "^" ++ weightText q.boost else "")

/-- The debugging description of the query.
Source: `AcrossFieldsQuery::fmt`, its debugging form. -/
def describe (q : FieldsQuery) : String :=
  "AcrossFieldsQuery \x7b fields: " ++ VariantsQuery.describeFields q.fields ++ ", analyzer: " ++
    Text.quoted q.analyzer.name ++ ", text: " ++ Text.quoted q.text ++ ", boost: " ++
    Decimal.renderFloat32 .inspect q.boost ++ " \x7d"

end FieldsQuery

/-- A query of either kind.
Source: `ExpressionQuery`. -/
inductive Query where
  /-- A query across variants. -/
  | variants (q : VariantsQuery)
  /-- A query across fields. -/
  | fields (q : FieldsQuery)

namespace Query

/-- The scoring expression.
Source: `ExpressionQuery::to_expression`. -/
def toExpression : Query → Except Error Expression
  | .variants q => q.toExpression
  | .fields q => .ok q.toExpression

/-- The filter expression.
Source: `ExpressionQuery::to_filter_expression`. -/
def toFilterExpression : Query → Except Error Expression
  | .variants q => q.toFilterExpression
  | .fields q => .ok q.toFilterExpression

/-- The query weight.
Source: `ExpressionQuery::boost`. -/
def boost : Query → Float32
  | .variants q => q.boost
  | .fields q => q.boost

/-- The query's text form. -/
def render : Query → String
  | .variants q => q.render
  | .fields q => q.render

/-- The debugging description. -/
def describe : Query → String
  | .variants q => q.describe
  | .fields q => q.describe

end Query

end ConceptQuery
