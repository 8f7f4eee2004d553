import ConceptQuery.Query.AcrossFields
import ConceptQuery.Json.Read

/-!
# Reading requests

A request is a JSON object with exactly one member: the name of a query kind and the query's
body. A query across variants is named `across_variants` or `acrossvariants`, a query across
fields `across_fields` or `acrossfields`.

**The body** is an object read key by key in sorted order, the first bad key deciding the error:

* `fields`: a field list in any of its JSON forms (`FieldWeights.ofJson`);
* `value` or `text`: the text to analyze (both set it, so `value`, sorting later, wins);
* `analyzer`: the name of an analyzer of the reader's registry;
* `boost`: the query weight, a number taken as a double and narrowed to a single;

and for queries across variants also `script` (a provider name), `params` (the provider's
parameters, an object), `use_dis_max` (a boolean) and `tie_breaker` (a number). Any other key is
refused.

**After the keys** come, in order: at least one field (a configuration error otherwise), a value,
the analyzer (the registry's default when none is named), the combine mode and weight of a query
across variants (`CompilerConfig.combineMode`), and last its provider.
-/

namespace ConceptQuery

/-- The two kinds of query a request can hold.
Source: `ACROSS_VARIANTS_NAMES` and `ACROSS_FIELDS_NAMES`. -/
inductive QueryKind where
  /-- A query across variants. -/
  | variants
  /-- A query across fields. -/
  | fields
deriving Repr, DecidableEq

namespace QueryKind

/-- The name a request gives the kind, as used in messages. -/
def name : QueryKind → String
  | .variants => "across_variants"
  | .fields => "across_fields"

/-- The kind a request's member names, under either of its two spellings.
Source: the name match of `RequestParser::parse`. -/
def ofName? (n : String) : Option QueryKind :=
  if n == "across_variants" || n == "acrossvariants" then some .variants
  else if n == "across_fields" || n == "acrossfields" then some .fields
  else none

end QueryKind

/-- What the keys of a query's body have set so far.
Source: the locals of `RequestParser::common_params`. -/
structure QueryBody where
  /-- The fields, once read. -/
  fields : Option FieldWeights := none
  /-- The text, from `value` or `text`, once read. -/
  value : Option String := none
  /-- The analyzer's name, once read. -/
  analyzer : Option String := none
  /-- The query weight. -/
  boost : Float32 := 1
  /-- The provider's name, once read. -/
  script : Option String := none
  /-- The provider's parameters. -/
  params : Json.Members := []
  /-- Whether alternatives combine by their best score. -/
  useDisMax : Bool := false
  /-- The tie breaker. -/
  tieBreaker : Float32 := 0

namespace QueryBody

/-- The text of a string member, or the error naming the member.
Source: `string_value`. -/
def stringOf (kind : QueryKind) (key : String) : Json → Except Error String
  | .string s => .ok s
  | _ => .error (.query ("[" ++ kind.name ++ "] [" ++ key ++ "] must be a string"))

/-- A number member as a single (read as a double, then narrowed), or the error naming it.
Source: `number_value`. -/
def numberOf (kind : QueryKind) (key : String) : Json → Except Error Float32
  | .number n => .ok (doubleToSingle n.toFloat)
  | _ => .error (.query ("[" ++ kind.name ++ "] [" ++ key ++ "] must be a number"))

/-- Read a key that only queries across variants have; `none` when the key is not one of them.
Source: the callback of `RequestParser::parse_across_variants`. -/
def readVariantsKey (kind : QueryKind) (b : QueryBody) (key : String) (value : Json) :
    Option (Except Error QueryBody) :=
  if key == "script" then some do pure { b with script := some (← stringOf kind key value) }
  else if key == "params" then
    some <| match value with
      | .object ms => .ok { b with params := ms }
      | _ => .error (.query ("[" ++ kind.name ++ "] [params] must be an object"))
  else if key == "use_dis_max" then
    some <| match value with
      | .bool v => .ok { b with useDisMax := v }
      | _ => .error (.query ("[" ++ kind.name ++ "] [use_dis_max] must be a boolean"))
  else if key == "tie_breaker" then
    some do pure { b with tieBreaker := (← numberOf kind key value) }
  else none

/-- Read one key of a body.
Source: the key loop of `RequestParser::common_params`. -/
def readKey (kind : QueryKind) (b : QueryBody) (key : String) (value : Json) :
    Except Error QueryBody :=
  if key == "fields" then do pure { b with fields := some (← FieldWeights.ofJson value) }
  else if key == "value" || key == "text" then do
    pure { b with value := some (← stringOf kind key value) }
  else if key == "analyzer" then do pure { b with analyzer := some (← stringOf kind key value) }
  else if key == "boost" then do pure { b with boost := (← numberOf kind key value) }
  else
    let extra := match kind with
      | .variants => readVariantsKey kind b key value
      | .fields => none
    match extra with
    | some r => r
    | none => .error (.query ("[" ++ kind.name ++ "] query does not support [" ++ key ++ "]"))

/-- Read the keys of a body in order, stopping at the first bad one. -/
def readKeys (kind : QueryKind) : QueryBody → List (String × Json) → Except Error QueryBody
  | b, [] => .ok b
  | b, (key, value) :: rest => do readKeys kind (← b.readKey kind key value) rest

/-- The settings of the compiled query a body asks for.
Source: the `CompilerConfig` of `RequestParser::parse_across_variants`. -/
def config (b : QueryBody) : CompilerConfig := ⟨b.useDisMax, b.tieBreaker, b.boost⟩

end QueryBody

/-- Reads requests, finding analyzers and providers by name in its registries.
Source: `RequestParser`. -/
structure RequestReader where
  /-- The analyzers a request may name. -/
  analyzers : AnalyzerRegistry
  /-- The providers a request may name. -/
  providers : ProviderRegistry

namespace RequestReader

/-- The reader with the default analyzers and providers.
Source: `RequestParser::with_defaults`. -/
def defaults : RequestReader := ⟨AnalyzerRegistry.defaults, ProviderRegistry.defaults⟩

/-- The body of a query, which must be an object, read key by key.
Source: `body_object`. -/
def readBody (kind : QueryKind) : Json → Except Error QueryBody
  | .object ms => QueryBody.readKeys kind {} ms
  | _ => .error (.query ("[" ++ kind.name ++ "] query must be a JSON object"))

/-- What every query needs, checked in order: fields, a value, an analyzer.
Source: the checks that end `RequestParser::common_params`. -/
def common (r : RequestReader) (kind : QueryKind) (b : QueryBody) :
    Except Error (FieldWeights × String × Analyzer) := do
  let fields := b.fields.getD .empty
  if fields.isEmpty then throw (.configuration ("[" ++ kind.name ++ "] no fields given"))
  let some value := b.value
    | throw (.query ("No value specified for [" ++ kind.name ++ "] query"))
  let a ← match b.analyzer with
    | some n => r.analyzers.get n
    | none => r.analyzers.defaultAnalyzer
  pure (fields, value, a)

/-- The query across variants of a body.
Source: `RequestParser::parse_across_variants`. -/
def readVariants (r : RequestReader) (body : Json) : Except Error VariantsQuery := do
  let b ← readBody .variants body
  let (fields, value, a) ← r.common .variants b
  let q ← VariantsQuery.new fields a value
  let mode ← b.config.combineMode
  let q := { q with mode := mode, boost := b.boost }
  match b.script with
  | some s => pure { q with provider := ← r.providers.create s b.params }
  | none => pure q

/-- The query across fields of a body.
Source: `RequestParser::parse_across_fields`. -/
def readFields (r : RequestReader) (body : Json) : Except Error FieldsQuery := do
  let b ← readBody .fields body
  let (fields, value, a) ← r.common .fields b
  let q ← FieldsQuery.new fields a value
  pure { q with boost := b.boost }

/-- The query of a body of the given kind. -/
def readKind (r : RequestReader) : QueryKind → Json → Except Error Query
  | .variants, body => do pure (.variants (← r.readVariants body))
  | .fields, body => do pure (.fields (← r.readFields body))

/-- The query of a request: an object with exactly one member, the kind and its body.
Source: `RequestParser::parse`. -/
def read (r : RequestReader) (request : Json) : Except Error Query :=
  match request with
  | .object [(n, body)] =>
    match QueryKind.ofName? n with
    | some kind => r.readKind kind body
    | none => .error (.query ("no query registered for [" ++ n ++ "]"))
  | .object ms =>
    .error (.query ("request must hold exactly one query, got " ++ toString ms.length))
  | _ => .error (.query "request must be a JSON object")

/-- The query of a request given as text; text that is not JSON is a JSON error.
Source: `RequestParser::parse_str`. -/
def readText (r : RequestReader) (text : String) : Except Error Query :=
  match Json.readExplained text with
  | .ok j => r.read j
  | .error d => .error (.json d)

/-- What reading a body of a query across variants reports: the analysis and the tree, once
the body is known good up to the analyzer, then the provider it names once the combine mode is
good. -/
def variantsNotes (r : RequestReader) (body : Json) : List LogLine :=
  match readBody .variants body with
  | .error _ => []
  | .ok b =>
    match r.common .variants b with
    | .error _ => []
    | .ok (_, value, a) =>
      VariantsQuery.newNotes a value ++
        match b.config.combineMode, b.script with
        | .ok _, some s =>
          [⟨.debug, "[across_variants] expanding terms with provider [" ++ s ++ "]"⟩]
        | _, _ => []

/-- What reading a request reports. -/
def notes (r : RequestReader) (request : Json) : List LogLine :=
  match request with
  | .object [(n, body)] =>
    match QueryKind.ofName? n with
    | some .variants => r.variantsNotes body
    | _ => []
  | _ => []

end RequestReader

end ConceptQuery
