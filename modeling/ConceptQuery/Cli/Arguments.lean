import ConceptQuery.Decimal.Literal

/-!
# Command-line arguments

The command line is `[GLOBAL OPTIONS] COMMAND [OPTIONS] ARGUMENT`, with three commands:

* `tree TEXT [-a ANALYZER]`
* `compile TEXT -F FIELDS [-a ANALYZER] [--dis-max [--tie-breaker X]] [-b BOOST]
  [-s SCRIPT [--params JSON]] [--filter]`
* `request FILE [-d DOCUMENTS] [--index-analyzer NAME] [--filter]`

and the global options `-v` (counted), `-q`, `-f human|json` and `--pretty`, which come before the
command. Each level also knows `-h`/`--help`, the top level `-V`/`--version` and the command
`help`.

**Reading the words.** Each level reads its words from left to right. A plain word is the value
an option is waiting for, if one is, even when it names a command. Else a word that names a
command of the level starts that command, which reads the remaining words. `--` makes every later word a
plain argument. `--name` or `--name=value` is a long option, `-abc` a cluster of short options
where an option taking a value takes the rest of the cluster (`-aword`, `-a=word`) or else the
next word; a value is never taken from a word that looks like an option. Any other word is the
next positional argument.

**When values are checked.** A value is checked (a number for `--tie-breaker` and `--boost`, one
of the formats for `-f`) when the next option is met or the level ends, and an option given twice
is refused at that moment too. Asking for help or the version stops at once. At the end of a
level the required arguments are checked, and the options that need another one (`--tie-breaker`
needs `--dis-max`, `--params` needs `--script`). A command's words are read and checked before
the global options are finished, so its errors come first.

Every refusal is a `UsageError`, named as the kinds of the usual argument-parser errors; help
and version requests are usage errors that succeed, with exit code 0.
-/

namespace ConceptQuery.Cli

/-- Why a command line was not run. -/
inductive UsageError where
  /-- Help was asked for. -/
  | displayHelp
  /-- The version was asked for. -/
  | displayVersion
  /-- Nothing at all was given. -/
  | displayHelpOnMissing
  /-- Options but no command were given. -/
  | missingSubcommand
  /-- A word where a command was expected names none. -/
  | invalidSubcommand
  /-- An option or argument that the level does not have. -/
  | unknownArgument
  /-- A missing value, or one outside the allowed choices. -/
  | invalidValue
  /-- A value that does not read as what the option takes. -/
  | valueValidation
  /-- A required argument, or one another argument needs, is missing. -/
  | missingRequiredArgument
  /-- An option was given twice. -/
  | argumentConflict
  /-- A value was attached to an option that takes none. -/
  | tooManyValues
deriving Repr, DecidableEq

namespace UsageError

/-- The name of the kind of refusal. -/
def name : UsageError → String
  | .displayHelp => "DisplayHelp"
  | .displayVersion => "DisplayVersion"
  | .displayHelpOnMissing => "DisplayHelpOnMissingArgumentOrSubcommand"
  | .missingSubcommand => "MissingSubcommand"
  | .invalidSubcommand => "InvalidSubcommand"
  | .unknownArgument => "UnknownArgument"
  | .invalidValue => "InvalidValue"
  | .valueValidation => "ValueValidation"
  | .missingRequiredArgument => "MissingRequiredArgument"
  | .argumentConflict => "ArgumentConflict"
  | .tooManyValues => "TooManyValues"

/-- The exit code: 0 for help and version, 2 for every refusal. -/
def exitCode : UsageError → Nat
  | .displayHelp | .displayVersion => 0
  | _ => 2

end UsageError

/-- What an option's value must be. -/
inductive ValueKind where
  /-- Any text. -/
  | text
  /-- A decimal literal, as `Decimal.Literal.parse` reads it. -/
  | number
  /-- One of the given words. -/
  | choice (options : List String)

/-- What an option does when it is met. -/
inductive Action where
  /-- Set once. -/
  | flag
  /-- Counted. -/
  | count
  /-- Takes one value. -/
  | value (kind : ValueKind)
  /-- Show the help and stop. -/
  | help
  /-- Show the version and stop. -/
  | version

/-- An option or positional argument of a level. -/
structure ArgSpec where
  /-- The name the argument is known by. -/
  id : String
  /-- Its short option letter, if any. -/
  short : Option Char := none
  /-- Its long option name, if any. -/
  long : Option String := none
  /-- What meeting it does. -/
  action : Action
  /-- Whether it must be given. -/
  required : Bool := false
  /-- Another argument that must be given when this one is. -/
  needs : Option String := none

/-- Whether the argument takes a value. -/
def ArgSpec.takesValue (a : ArgSpec) : Bool :=
  match a.action with
  | .value _ => true
  | _ => false

/-- One level of the command line: its arguments, its positional arguments in order (their ids,
each also an argument), and its commands. -/
structure Level where
  /-- The arguments of the level. -/
  args : List ArgSpec
  /-- The ids of its positional arguments, in order. -/
  positionals : List String
  /-- The commands it names. -/
  commands : List String

namespace Level

/-- The argument of a long option name. -/
def findLong (l : Level) (n : String) : Option ArgSpec := l.args.find? (·.long == some n)

/-- The argument of a short option letter. -/
def findShort (l : Level) (c : Char) : Option ArgSpec := l.args.find? (·.short == some c)

/-- The argument of an id. -/
def findId (l : Level) (i : String) : Option ArgSpec := l.args.find? (·.id == i)

end Level

/-- The state of reading a level's words. -/
structure Scan where
  /-- The values given so far, in order; a counted option appears once per use. -/
  given : List (String × String) := []
  /-- An argument whose value is held until the next option or the end, with its value if one
  was given yet. -/
  pending : Option (String × Option String) := none
  /-- Whether the next plain word is the pending option's value. -/
  awaiting : Bool := false
  /-- The index of the next positional argument. -/
  position : Nat := 0
  /-- Whether `--` was met. -/
  trailing : Bool := false

/-- Whether an argument was given. -/
def Scan.has (s : Scan) (i : String) : Bool := s.given.any (·.1 == i)

/-- Check a value against what the argument takes. -/
def checkValue (kind : ValueKind) (v : String) : Except UsageError Unit :=
  match kind with
  | .text => .ok ()
  | .number =>
    match Decimal.Literal.parse v with
    | .ok _ => .ok ()
    | .error _ => .error .valueValidation
  | .choice options => if options.contains v then .ok () else .error .invalidValue

/-- Record a use of an argument with its values: help and version stop here, a value-taking
argument needs its value, and a flag or value argument may be given only once. -/
def record (s : Scan) (a : ArgSpec) (values : List String) : Except UsageError Scan :=
  match a.action with
  | .help => .error .displayHelp
  | .version => .error .displayVersion
  | .count => .ok { s with given := s.given ++ [(a.id, "1")] }
  | .flag =>
    if s.has a.id then .error .argumentConflict
    else .ok { s with given := s.given ++ [(a.id, "true")] }
  | .value kind =>
    match values with
    | [] => .error .invalidValue
    | v :: _ =>
      if s.has a.id then .error .argumentConflict
      else do
        checkValue kind v
        pure { s with given := s.given ++ [(a.id, v)] }

/-- Record the held argument, if any. -/
def resolve (l : Level) (s : Scan) : Except UsageError Scan :=
  match s.pending with
  | none => .ok s
  | some (i, v) =>
    match l.findId i with
    | some a => record { s with pending := none } a v.toList
    | none => .ok { s with pending := none }

/-- Meet an argument: record the held one first, then this one. -/
def meet (l : Level) (s : Scan) (a : ArgSpec) (values : List String) : Except UsageError Scan := do
  record (← resolve l s) a values

/-- Hold a value-taking argument until its value comes. -/
def hold (l : Level) (s : Scan) (a : ArgSpec) : Except UsageError Scan := do
  let s ← resolve l s
  pure { s with pending := some (a.id, none), awaiting := true }

/-- The error for a plain word the level has no place for. -/
def strayError (l : Level) (s : Scan) (word : String) : UsageError :=
  if l.commands.isEmpty || (s.trailing && l.commands.contains word) then .unknownArgument
  else .invalidSubcommand

/-- Split `name=value` at its first `=`. -/
def splitAssignment (body : String) : String × Option String :=
  match body.toList.span (· != '=') with
  | (name, _ :: value) => (String.ofList name, some (String.ofList value))
  | (name, []) => (String.ofList name, none)

/-- The outcome of reading a level's words: the scan, and the command met with its words. -/
abbrev ScanResult := Except UsageError (Scan × Option (String × List String))

/-- What `help WORDS` asks: help on a command, which must exist at each step. -/
def helpRequest (l : Level) (levelOf : String → Option Level) : List String → UsageError
  | [] => .displayHelp
  | w :: rest =>
    if l.commands.contains w then
      match levelOf w with
      | some inner => helpRequest inner levelOf rest
      | none => if rest.isEmpty then .displayHelp else .invalidSubcommand
    else .invalidSubcommand

/-- Read a cluster of short options: flags are met one after the other; an option taking a value
takes the rest of the cluster (after an optional `=`), or waits for the next word. -/
def cluster (l : Level) : List Char → Scan → Except UsageError Scan
  | [], s => .ok { s with awaiting := false }
  | c :: more, s =>
    match l.findShort c with
    | none => .error .unknownArgument
    | some a =>
      if a.takesValue then
        let attached := String.ofList more
        if attached.isEmpty then hold l s a
        else
          let v := if attached.startsWith "=" then (attached.drop 1).toString else attached
          do pure { (← meet l s a [v]) with awaiting := false }
      else do cluster l more (← meet l s a [])

/-- Take a plain word as the next positional argument, held like an option's value. -/
def positional (l : Level) (w : String) (s : Scan) : Except UsageError Scan :=
  match l.positionals[s.position]? with
  | some i => do
    let s ← resolve l s
    pure { s with pending := some (i, some w), position := s.position + 1, awaiting := false }
  | none => .error (strayError l s w)

/-- Read a long option `--name` or `--name=value`. -/
def longOption (l : Level) (body : String) (s : Scan) : Except UsageError Scan :=
  match splitAssignment body with
  | (n, attached) =>
    match l.findLong n with
    | none => .error .unknownArgument
    | some a =>
      if a.takesValue then
        match attached with
        | some v => do pure { (← meet l s a [v]) with awaiting := false }
        | none => hold l s a
      else
        match attached with
        | some _ => .error .tooManyValues
        | none => do pure { (← meet l s a []) with awaiting := false }

/-- Read the words of a level, up to the command it names, if any. -/
def scanWords (l : Level) (levelOf : String → Option Level) : List String → Scan → ScanResult
  | [], s => .ok (s, none)
  | w :: rest, s =>
    let looksLikeOption := w.startsWith "-" && w != "-"
    if s.trailing then do scanWords l levelOf rest (← positional l w s)
    else if s.awaiting && !looksLikeOption then
      scanWords l levelOf rest
        { s with pending := s.pending.map (fun p => (p.1, some w)), awaiting := false }
    else if l.commands.contains w then
      if w == "help" then .error (helpRequest l levelOf rest) else .ok (s, some (w, rest))
    else if w == "--" then scanWords l levelOf rest { s with trailing := true }
    else if w.startsWith "--" then do scanWords l levelOf rest (← longOption l (w.drop 2).toString s)
    else if looksLikeOption then
      do scanWords l levelOf rest (← cluster l (w.drop 1).toString.toList s)
    else do scanWords l levelOf rest (← positional l w s)

/-- Whether a required argument is missing, or an argument is given without the one it needs. -/
def lacksRequired (l : Level) (s : Scan) : Bool :=
  l.args.any fun a =>
    (a.required && !s.has a.id) ||
      match a.needs with
      | some other => s.has a.id && !s.has other
      | none => false

/-- Finish a level: record the held argument, then check required and needed arguments. -/
def finish (l : Level) (s : Scan) : Except UsageError Scan := do
  let s ← resolve l s
  if lacksRequired l s then throw .missingRequiredArgument
  pure s

/-- The arguments of the top level. -/
def topLevel : Level :=
  ⟨[{ id := "verbose", short := some 'v', long := some "verbose", action := .count },
    { id := "quiet", short := some 'q', long := some "quiet", action := .flag },
    { id := "format", short := some 'f', long := some "format",
      action := .value (.choice ["human", "json"]) },
    { id := "pretty", long := some "pretty", action := .flag },
    { id := "help", short := some 'h', long := some "help", action := .help },
    { id := "version", short := some 'V', long := some "version", action := .version }],
   [], ["tree", "compile", "request", "help"]⟩

/-- The help option of every command. -/
def helpArg : ArgSpec := { id := "help", short := some 'h', long := some "help", action := .help }

/-- The arguments of `tree`. -/
def treeLevel : Level :=
  ⟨[{ id := "text", action := .value .text, required := true },
    { id := "analyzer", short := some 'a', long := some "analyzer", action := .value .text },
    helpArg], ["text"], []⟩

/-- The arguments of `compile`. -/
def compileLevel : Level :=
  ⟨[{ id := "text", action := .value .text, required := true },
    { id := "fields", short := some 'F', long := some "fields", action := .value .text,
      required := true },
    { id := "analyzer", short := some 'a', long := some "analyzer", action := .value .text },
    { id := "dis_max", long := some "dis-max", action := .flag },
    { id := "tie_breaker", long := some "tie-breaker", action := .value .number,
      needs := some "dis_max" },
    { id := "boost", short := some 'b', long := some "boost", action := .value .number },
    { id := "script", short := some 's', long := some "script", action := .value .text },
    { id := "params", long := some "params", action := .value .text, needs := some "script" },
    { id := "filter", long := some "filter", action := .flag },
    helpArg], ["text"], []⟩

/-- The arguments of `request`. -/
def requestLevel : Level :=
  ⟨[{ id := "request_file", action := .value .text, required := true },
    { id := "documents", short := some 'd', long := some "documents", action := .value .text },
    { id := "index_analyzer", long := some "index-analyzer", action := .value .text },
    { id := "filter", long := some "filter", action := .flag },
    helpArg], ["request_file"], []⟩

/-- The level of a command. -/
def levelOf : String → Option Level
  | "tree" => some treeLevel
  | "compile" => some compileLevel
  | "request" => some requestLevel
  | _ => none

/-- How output is written.
Source: `OutputFormat`. -/
inductive Format where
  /-- Text for a reader. -/
  | human
  /-- JSON. -/
  | json
deriving Repr, DecidableEq

/-- The arguments of `tree`.
Source: `TreeArgs`. -/
structure TreeOptions where
  /-- The text to analyze. -/
  text : String
  /-- The analyzer's name. -/
  analyzer : String := "standard"
deriving Repr

/-- The arguments of `compile`.
Source: `CompileArgs`. -/
structure CompileOptions where
  /-- The text to compile. -/
  text : String
  /-- The fields, as a list text. -/
  fields : String
  /-- The analyzer's name. -/
  analyzer : String := "standard"
  /-- Whether alternatives combine by their best score. -/
  disMax : Bool := false
  /-- The tie breaker. -/
  tieBreaker : Float32 := 0
  /-- The query weight. -/
  boost : Float32 := 1
  /-- The provider's name, if any. -/
  script : Option String := none
  /-- The provider's parameters as JSON text, if any. -/
  params : Option String := none
  /-- Whether to compile the filter form. -/
  filter : Bool := false
deriving Repr

/-- The arguments of `request`.
Source: `RequestArgs`. -/
structure RequestOptions where
  /-- The file holding the request. -/
  requestFile : String
  /-- A documents file to match against, if any. -/
  documents : Option String := none
  /-- The analyzer of the documents' texts. -/
  indexAnalyzer : String := "simple"
  /-- Whether to compile the filter form. -/
  filter : Bool := false
deriving Repr

/-- A command with its arguments.
Source: `Command`. -/
inductive Command where
  /-- Show the span tree of a text. -/
  | tree (o : TreeOptions)
  /-- Compile a text across variants. -/
  | compile (o : CompileOptions)
  /-- Compile the request of a file. -/
  | request (o : RequestOptions)
deriving Repr

/-- A whole command line.
Source: `SpanfoldArgs`. -/
structure Arguments where
  /-- The number of `-v` given. -/
  verbose : Nat := 0
  /-- Whether `-q` was given. -/
  quiet : Bool := false
  /-- How output is written. -/
  format : Format := .human
  /-- Whether JSON is written over several lines. -/
  pretty : Bool := false
  /-- The command to run. -/
  command : Command
deriving Repr

/-- How much to tell: 0 when quiet, otherwise the number of `-v`, at least 1.
Source: `SpanfoldArgs::verbosity`. -/
def Arguments.verbosity (a : Arguments) : Nat :=
  if a.quiet then 0 else if a.verbose == 0 then 1 else a.verbose

/-- The last value given for an argument. -/
def Scan.value? (s : Scan) (i : String) : Option String :=
  (s.given.filter (·.1 == i)).getLast?.map Prod.snd

/-- The value of an argument, or a default. -/
def Scan.valueOr (s : Scan) (i d : String) : String := (s.value? i).getD d

/-- A number argument's value (checked when it was given), or a default. -/
def Scan.numberOr (s : Scan) (i : String) (d : Float32) : Float32 :=
  match s.value? i with
  | some v =>
    match Decimal.Literal.parse v with
    | .ok lit => lit.toFloat32
    | .error _ => d
  | none => d

/-- The command of a finished command level. -/
def commandOf (name : String) (s : Scan) : Command :=
  match name with
  | "tree" => .tree ⟨s.valueOr "text" "", s.valueOr "analyzer" "standard"⟩
  | "compile" =>
    .compile ⟨s.valueOr "text" "", s.valueOr "fields" "", s.valueOr "analyzer" "standard",
      s.has "dis_max", s.numberOr "tie_breaker" 0, s.numberOr "boost" 1, s.value? "script",
      s.value? "params", s.has "filter"⟩
  | _ =>
    .request ⟨s.valueOr "request_file" "", s.value? "documents",
      s.valueOr "index_analyzer" "simple", s.has "filter"⟩

/-- Read a command line (the words after the program's name).
Source: `SpanfoldArgs::parse`. -/
def Arguments.parse (words : List String) : Except UsageError Arguments := do
  let (top, found) ← scanWords topLevel levelOf words {}
  match found with
  | none =>
    let top ← finish topLevel top
    if top.given.isEmpty then throw .displayHelpOnMissing else throw .missingSubcommand
  | some (name, rest) =>
    let level := (levelOf name).getD treeLevel
    let (inner, _) ← scanWords level levelOf rest {}
    let inner ← finish level inner
    let top ← finish topLevel top
    pure ⟨min 255 (top.given.filter (·.1 == "verbose")).length, top.has "quiet",
      if top.value? "format" == some "json" then .json else .human, top.has "pretty",
      commandOf name inner⟩

end ConceptQuery.Cli
