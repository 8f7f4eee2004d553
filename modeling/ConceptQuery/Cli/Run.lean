import ConceptQuery.Cli.Arguments
import ConceptQuery.Cli.Documents
import ConceptQuery.Cli.Outline
import ConceptQuery.Request.Parse

/-!
# Running commands

`execute` runs a command line over files and returns its `Outcome`: the text it prints, the log
lines it reports and the error that stopped it. A command prints only at its end, so a command
that fails prints nothing; the log lines reported before the failure are kept.

* `tree` analyzes a text, builds the span tree of its terms and shows it.
* `compile` builds a query across variants from a text and a field list, with the combine mode,
  weight and provider of the options, and shows the compiled expression (or its filter form).
* `request` reads a request file, optionally indexes a documents file, and shows the compiled
  expression of the request with the ids of the matching documents.

**Output.** In the JSON format a result is one JSON object, its members in a fixed order; the
human format writes lines whose detail grows with the verbosity (`Arguments.verbosity`). The log
lines shown are those at most as detailed as the verbosity allows: errors at 0, warnings at 1,
information at 2, debugging at 3, everything from 4 on.
-/

namespace ConceptQuery.Cli

/-- A computation that reports log lines, and that may fail after reporting some. -/
abbrev Session := ExceptT Error (StateM (List LogLine))

/-- Report log lines. -/
def report (lines : List LogLine) : Session Unit := modify (· ++ lines)

/-- A result that may be an error. -/
def expect {α : Type} (x : Except Error α) : Session α := ExceptT.mk (pure x)

/-- What `tree` shows.
Source: `TreeResult`. -/
structure TreeResult where
  /-- The text analyzed. -/
  text : String
  /-- The analyzer's name. -/
  analyzer : String
  /-- The terms of the analysis. -/
  terms : List Term
  /-- Their span tree. -/
  tree : SpanTree

/-- What `compile` and `request` show.
Source: `CompileResult`. -/
structure CompileResult where
  /-- The query's text form. -/
  query : String
  /-- Whether the filter form was compiled. -/
  filter : Bool
  /-- The compiled expression. -/
  expression : Expression
  /-- The ids of the documents it matches, when there are documents. -/
  matched : Option (List String)

/-- A term as JSON. -/
def Term.toJson (t : Term) : Json :=
  .object [("text", .string t.text), ("start", .ofNat t.start), ("end", .ofNat t.stop),
    ("position", .ofNat t.position)]

/-- The JSON form of a tree result. -/
def TreeResult.toJson (r : TreeResult) : Json :=
  .object [("text", .string r.text), ("analyzer", .string r.analyzer),
    ("terms", .array (r.terms.map Term.toJson)), ("tree", .string r.tree.render),
    ("concepts", .ofNat r.tree.conceptCount), ("depth", .ofNat r.tree.depth)]

/-- The JSON form of a compile result. -/
def CompileResult.toJson (r : CompileResult) : Json :=
  .object ([("query", .string r.query), ("filter", .bool r.filter),
    ("expression", r.expression.toJson), ("rendered", .string r.expression.render),
    ("leaves", .ofNat r.expression.leafCount)] ++
    match r.matched with
    | some ids => [("matches", .ofStrings ids)]
    | none => [])

/-- Lines of text, each ended by a line break. -/
def joinLines (ls : List String) : String := String.join (ls.map (· ++ "\n"))

/-- The human form of a tree result.
Source: `TreeResult::print_human`. -/
def TreeResult.human (r : TreeResult) (verbosity : Nat) : String :=
  (if verbosity > 1 then
    joinLines (("Analyzer: " ++ r.analyzer) :: r.terms.map (fun t => "  " ++ t.render)) ++ "\n"
  else "") ++
  joinLines r.tree.outline ++
  (if verbosity > 0 then
    "\n" ++ toString r.tree.conceptCount ++ " concepts, depth " ++ toString r.tree.depth ++ "\n"
  else "")

/-- The human form of a compile result.
Source: `CompileResult::print_human`. -/
def CompileResult.human (r : CompileResult) (verbosity : Nat) : String :=
  (if verbosity > 1 then
    "Query: " ++ r.query ++ "\n" ++ (if r.filter then "Form: filter\n" else "")
  else "") ++
  r.expression.render ++ "\n" ++
  (if verbosity > 1 then toString r.expression.leafCount ++ " leaves\n" else "") ++
  match r.matched with
  | some [] => "\nNo matching documents\n"
  | some ids => "\nMatching documents: " ++ ", ".intercalate ids ++ "\n"
  | none => ""

/-- A JSON result as printed: on one line, or over several with `--pretty`.
Source: `output_json`. -/
def printJson (a : Arguments) (j : Json) : String :=
  (if a.pretty then Json.pretty j else Json.compact j) ++ "\n"

/-- Build the tree of a text.
Source: `show_tree`. -/
def showTree (o : TreeOptions) : Session TreeResult := do
  let a ← expect (AnalyzerRegistry.defaults.get o.analyzer)
  let terms := Term.collect (a.analyze o.text)
  report (SpanTree.buildNotes terms)
  pure ⟨o.text, a.name, terms, SpanTree.build terms⟩

/-- Compile a query, or its filter form, and match it against an index if there is one.
Source: `compile_query`. -/
def compileQuery (q : Query) (filter : Bool) (idx : Option MemoryIndex) :
    Session CompileResult := do
  let e ← expect (if filter then q.toFilterExpression else q.toExpression)
  report (match q with
    | .variants v => if filter then v.filterNotes else v.expressionNotes
    | .fields _ => [])
  report [⟨.debug, q.render ++ " compiled to " ++ e.render⟩]
  pure ⟨q.render, filter, e, idx.map (·.search e)⟩

/-- Provider parameters given as JSON text: an object.
Source: `parse_params`. -/
def providerParams : Option String → Except Error Json.Members
  | none => .ok []
  | some text =>
    match Json.readExplained text with
    | .error d => .error (.json d)
    | .ok (.object ms) => .ok ms
    | .ok other =>
      .error (.invalidArgument ("provider parameters must be a JSON object, got " ++
        Json.compact other))

/-- Compile a text across variants.
Source: `compile_text`. -/
def compileText (o : CompileOptions) : Session CompileResult := do
  let fields ← expect (FieldWeights.parse o.fields)
  let config : CompilerConfig := ⟨o.disMax, o.tieBreaker, o.boost⟩
  let a ← expect (AnalyzerRegistry.defaults.get o.analyzer)
  let q ← expect (VariantsQuery.new fields a o.text)
  report (VariantsQuery.newNotes a o.text)
  let mode ← expect config.combineMode
  let q := { q with mode := mode, boost := config.boost }
  let q ← match o.script with
    | some s => do
      let params ← expect (providerParams o.params)
      pure { q with provider := ← expect (ProviderRegistry.defaults.create s params) }
    | none => pure q
  compileQuery (.variants q) o.filter none

/-- Compile the request of a file, matching it against a documents file if one is given.
Source: `compile_request`. -/
def compileRequest (fs : Files) (o : RequestOptions) : Session CompileResult := do
  report [⟨.info, "Reading request from " ++ o.requestFile⟩]
  let text ← expect (fs.readText o.requestFile)
  let r := RequestReader.defaults
  let j ← expect ((Json.readExplained text).mapError .json)
  report (r.notes j)
  let q ← expect (r.read j)
  let idx ← match o.documents with
    | some path => do
      let a ← expect (AnalyzerRegistry.defaults.get o.indexAnalyzer)
      let idx ← expect (loadDocuments fs path a)
      report [⟨.info, "Loaded " ++ toString idx.size ++ " documents from " ++ path⟩]
      pure (some idx)
    | none => pure none
  compileQuery q o.filter idx

/-- What running a command produced. -/
structure Outcome where
  /-- The printed text. -/
  stdout : String
  /-- The log lines reported, shown or not. -/
  logs : List LogLine
  /-- The error that stopped the command. -/
  error : Option Error

/-- The printed text of a command line's command. -/
def commandText (a : Arguments) (fs : Files) : Session String :=
  match a.command with
  | .tree o => do
    let r ← showTree o
    pure (match a.format with
      | .human => r.human a.verbosity
      | .json => printJson a r.toJson)
  | .compile o => do
    let r ← compileText o
    pure (match a.format with
      | .human => r.human a.verbosity
      | .json => printJson a r.toJson)
  | .request o => do
    let r ← compileRequest fs o
    pure (match a.format with
      | .human => r.human a.verbosity
      | .json => printJson a r.toJson)

/-- Run a command line over files.
Source: `execute_command`. -/
def execute (a : Arguments) (fs : Files) : Outcome :=
  match (commandText a fs).run.run [] with
  | (.ok out, logs) => ⟨out, logs, none⟩
  | (.error e, logs) => ⟨"", logs, some e⟩

/-- Whether a log line is shown at a verbosity. -/
def shown (verbosity : Nat) (l : LogLine) : Bool := l.level.rank ≤ min verbosity 4 + 1

namespace Outcome

/-- The exit code: 1 after an error, else 0. -/
def exitCode (o : Outcome) : Nat := if o.error.isSome then 1 else 0

/-- The error text: the log lines shown at a verbosity, `[LEVEL] message`, then the error. -/
def stderr (o : Outcome) (verbosity : Nat) : String :=
  joinLines ((o.logs.filter (shown verbosity)).map fun l => "[" ++ l.level.name ++ "] " ++ l.message) ++
    match o.error with
    | some e => "Error: " ++ e.message ++ "\n"
    | none => ""

end Outcome

end ConceptQuery.Cli
