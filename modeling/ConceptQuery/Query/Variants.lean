import ConceptQuery.Query.Compile
import ConceptQuery.Analysis.Analyzer

/-!
# Queries across variants

A query across variants analyzes its text, builds the span tree of the terms, and compiles the
tree for its fields, provider and combine mode: every variant of a concept (its writings in every
field) is an alternative, and compounds may match whole or by their parts. A query weight other
than one wraps the compiled expression in a boost.

The *filter* form answers the same question without scoring: the tree compiled for the fields
without weights, in plain disjunctions, with every weight removed.
-/

namespace ConceptQuery

/-- A query across variants.
Source: `AcrossVariantsQuery`. -/
structure VariantsQuery where
  /-- The fields searched, with their weights. -/
  fields : FieldWeights
  /-- The analyzer the text was analyzed with. -/
  analyzer : Analyzer
  /-- The query text. -/
  text : String
  /-- How a field and a writing become an expression. -/
  provider : Provider
  /-- How the alternatives of a concept combine. -/
  mode : CombineMode
  /-- The weight of the whole query. -/
  boost : Float32
  /-- The span tree of the analyzed text. -/
  tree : SpanTree

namespace VariantsQuery

/-- The terms of an analyzed text. -/
def termsOf (a : Analyzer) (text : String) : List Term := Term.collect (a.analyze text)

/-- A query over fields (at least one), for a text analyzed by an analyzer, with the term
provider, plain disjunctions and weight one.
Source: `AcrossVariantsQuery::new`. -/
def new (fields : FieldWeights) (a : Analyzer) (text : String) : Except Error VariantsQuery :=
  if fields.isEmpty then .error (.configuration "[across_variants] no fields given")
  else .ok ⟨fields, a, text, .term, .andOr, 1, SpanTree.build (termsOf a text)⟩

/-- What creating a query reports: the analysis, then the building of the tree.
Source: the log lines of `AcrossVariantsQuery::new`. -/
def newNotes (a : Analyzer) (text : String) : List LogLine :=
  let terms := termsOf a text
  ⟨.debug, "Analyzed " ++ Text.quoted text ++ " with [" ++ a.name ++ "] into " ++
    toString terms.length ++ " terms"⟩ :: SpanTree.buildNotes terms

/-- The compiler of the query. -/
def compiler (q : VariantsQuery) : Compiler := ⟨q.fields, q.provider, q.mode⟩

/-- The scoring expression.
Source: `AcrossVariantsQuery::to_expression`. -/
def toExpression (q : VariantsQuery) : Except Error Expression := do
  let e ← q.compiler.tree q.tree
  pure (if q.boost == 1 then e else .boost q.boost e)

/-- The filter expression.
Source: `AcrossVariantsQuery::to_filter_expression`. -/
def toFilterExpression (q : VariantsQuery) : Except Error Expression := do
  let e ← (Compiler.mk q.fields.unweighted q.provider .andOr).tree q.tree
  pure e.withoutScoring

/-- What compiling the scoring expression reports. -/
def expressionNotes (q : VariantsQuery) : List LogLine :=
  match q.compiler.tree q.tree with
  | .ok e => [q.compiler.treeNote q.tree e]
  | .error _ => []

/-- What compiling the filter expression reports. -/
def filterNotes (q : VariantsQuery) : List LogLine :=
  let k := Compiler.mk q.fields.unweighted q.provider .andOr
  match k.tree q.tree with
  | .ok e => [k.treeNote q.tree e]
  | .error _ => []

/-- `[FIELDS]:"TEXT"`, with `^WEIGHT` when the weight is not one.
Source: `AcrossVariantsQuery::fmt`. -/
def render (q : VariantsQuery) : String :=
  "[" ++ q.fields.render ++ "]:\"" ++ q.text ++ "\"" ++
    (if q.boost != 1 then "^" ++ weightText q.boost else "")

/-- The debugging description of a field list. -/
def describeFields (fs : FieldWeights) : String :=
  "BoostedFields \x7b fields: [" ++ ", ".intercalate (fs.entries.map fun (n, w) =>
    "(" ++ Text.quoted n ++ ", " ++ Decimal.renderFloat32 .inspect w ++ ")") ++ "] \x7d"

/-- The debugging description of the query.
Source: `AcrossVariantsQuery::fmt`, its debugging form. -/
def describe (q : VariantsQuery) : String :=
  "AcrossVariantsQuery \x7b fields: " ++ describeFields q.fields ++ ", analyzer: " ++
    Text.quoted q.analyzer.name ++ ", text: " ++ Text.quoted q.text ++ ", provider: " ++
    Text.quoted q.provider.name ++ ", mode: " ++ q.mode.describe ++ ", boost: " ++
    Decimal.renderFloat32 .inspect q.boost ++ " \x7d"

end VariantsQuery

end ConceptQuery
