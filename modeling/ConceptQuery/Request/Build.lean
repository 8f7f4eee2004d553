import ConceptQuery.Request.Parse

/-!
# Building requests

A `RequestDraft` collects the parts of a request one call at a time and writes the request as
JSON, in the form `RequestReader.read` reads back. Every setting is optional except the fields;
a draft without fields cannot be written.

**Fields** are written as an array of names, or, when a weight was given to some field since the
fields were last cleared, as an object from names to weights. Weights are singles widened to
doubles, so `0.1` is written `0.10000000149011612`; a weight that is not finite has no JSON
number and is written `null`. Object members are sorted by key, at every level.
-/

namespace ConceptQuery

/-- The fields of a draft, and whether a weight was given since they were last cleared.
Source: `FieldList`. -/
structure FieldList where
  /-- The fields added so far. -/
  fields : FieldWeights := .empty
  /-- Whether a weight was given since the fields were last cleared. -/
  weighted : Bool := false

namespace FieldList

/-- Add a field of weight one.
Source: `FieldList::add`. -/
def add (l : FieldList) (name : String) : FieldList := { l with fields := l.fields.insert name 1 }

/-- Add a field with a weight.
Source: `FieldList::add_boosted`. -/
def addWeighted (l : FieldList) (name : String) (w : Float32) : FieldList :=
  ⟨l.fields.insert name w, true⟩

end FieldList

/-- A single widened to a double, as a JSON value: `null` when it is not finite. -/
def widened (x : Float32) : Json :=
  if x.isFinite then .number (.double (singleToDouble x)) else .null

/-- The fields as JSON: an object from names to weights if some weight was given, else an array
of names.
Source: the fields of `FieldList::render`. -/
def FieldList.toJson (kind : QueryKind) (l : FieldList) : Except Error Json :=
  if l.fields.isEmpty then .error (.configuration ("[" ++ kind.name ++ "] no fields given"))
  else if l.weighted then
    .ok (.object (l.fields.entries.foldl (fun ms (n, w) => Json.Members.insert n (widened w) ms) []))
  else .ok (Json.ofStrings l.fields.names)

/-- A request being built. The provider, its parameters and the combine mode only belong to
queries across variants.
Source: `AcrossVariantsRequestBuilder` and `AcrossFieldsRequestBuilder`. -/
structure RequestDraft where
  /-- The kind of query the request holds. -/
  kind : QueryKind
  /-- The fields. -/
  fields : FieldList := {}
  /-- The text, once set. -/
  value : Option String := none
  /-- The analyzer's name, once set. -/
  analyzer : Option String := none
  /-- The query weight, once set. -/
  boost : Option Float32 := none
  /-- The provider's name, once set. -/
  script : Option String := none
  /-- The provider's parameters, once set. -/
  params : Option Json.Members := none
  /-- Whether alternatives combine by their best score, once set. -/
  useDisMax : Option Bool := none
  /-- The tie breaker, once set. -/
  tieBreaker : Option Float32 := none

namespace RequestDraft

/-- An empty draft of a kind.
Source: `AcrossVariantsRequestBuilder::new`, `AcrossFieldsRequestBuilder::new`. -/
def new (kind : QueryKind) : RequestDraft := { kind }

/-- Remove every field.
Source: `clear_fields` of the request builders. -/
def clearFields (d : RequestDraft) : RequestDraft := { d with fields := {} }

/-- Add a field of weight one.
Source: `add_field` of the request builders. -/
def addField (d : RequestDraft) (name : String) : RequestDraft :=
  { d with fields := d.fields.add name }

/-- Make a field of weight one the only field.
Source: `field` of the request builders. -/
def field (d : RequestDraft) (name : String) : RequestDraft := d.clearFields.addField name

/-- Add a field with a weight.
Source: `add_field_boosted` of the request builders. -/
def addWeightedField (d : RequestDraft) (name : String) (w : Float32) : RequestDraft :=
  { d with fields := d.fields.addWeighted name w }

/-- Make a field with a weight the only field.
Source: `field_boosted` of the request builders. -/
def weightedField (d : RequestDraft) (name : String) (w : Float32) : RequestDraft :=
  d.clearFields.addWeightedField name w

/-- Add fields of weight one, in order.
Source: `add_fields` of the request builders. -/
def addFields (d : RequestDraft) (names : List String) : RequestDraft :=
  names.foldl addField d

/-- Make fields of weight one the only fields.
Source: `fields` of the request builders. -/
def setFields (d : RequestDraft) (names : List String) : RequestDraft :=
  d.clearFields.addFields names

/-- Set the text.
Source: `value` of the request builders. -/
def withValue (d : RequestDraft) (v : String) : RequestDraft := { d with value := some v }

/-- Set the analyzer's name.
Source: `analyzer` of the request builders. -/
def withAnalyzer (d : RequestDraft) (a : String) : RequestDraft := { d with analyzer := some a }

/-- Set the query weight.
Source: `boost` of the request builders. -/
def withBoost (d : RequestDraft) (w : Float32) : RequestDraft := { d with boost := some w }

/-- Set the provider's name.
Source: `AcrossVariantsRequestBuilder::script`. -/
def withScript (d : RequestDraft) (s : String) : RequestDraft := { d with script := some s }

/-- Set the provider's parameters.
Source: `AcrossVariantsRequestBuilder::params`. -/
def withParams (d : RequestDraft) (ps : Json.Members) : RequestDraft := { d with params := some ps }

/-- Set whether alternatives combine by their best score.
Source: `AcrossVariantsRequestBuilder::use_dis_max`. -/
def withDisMax (d : RequestDraft) (b : Bool) : RequestDraft := { d with useDisMax := some b }

/-- Set the tie breaker.
Source: `AcrossVariantsRequestBuilder::tie_breaker`. -/
def withTieBreaker (d : RequestDraft) (tb : Float32) : RequestDraft :=
  { d with tieBreaker := some tb }

/-- Add a member to sorted members when a setting is present. -/
def putSome {α : Type} (key : String) (f : α → Json) : Option α → Json.Members → Json.Members
  | some a, ms => Json.Members.insert key (f a) ms
  | none, ms => ms

/-- The members a draft's settings add to the body, beside the fields. -/
def settings (d : RequestDraft) : Json.Members :=
  let common := putSome "boost" widened d.boost <|
    putSome "analyzer" .string d.analyzer <| putSome "value" .string d.value []
  match d.kind with
  | .fields => common
  | .variants =>
    putSome "tie_breaker" widened d.tieBreaker <| putSome "use_dis_max" .bool d.useDisMax <|
      putSome "params" .object d.params <| putSome "script" .string d.script common

/-- The request as JSON: `{KIND: BODY}`.
Source: `build` of the request builders. -/
def build (d : RequestDraft) : Except Error Json := do
  let fields ← d.fields.toJson d.kind
  pure (.object [(d.kind.name, .object (Json.Members.insert "fields" fields d.settings))])

/-- The request as compact JSON text.
Source: `to_json_string` of the request builders. -/
def toText (d : RequestDraft) : Except Error String := do pure (Json.compact (← d.build))

end RequestDraft

end ConceptQuery
