import ConceptQuery.Analysis.Tokenizer
import ConceptQuery.Analysis.Filter
import ConceptQuery.Text.Quoted

/-!
# Analyzers

An analyzer turns a text into tokens. A *pipeline* runs a tokenizer and then its filters in order;
its name is the tokenizer's unless it was given one. A *replay* analyzer ignores the text and hands
out a recorded token stream, each token's position being the running sum of the increments.

The named analyzers of the library are pipelines: `standard` (Unicode words, lowercased, English
stop words removed), `simple` (the same without stop words), `standard_synonyms` (standard, then
synonyms), `whitespace` (runs of non-blank characters, untouched), `word_delimiter` (runs of
non-blank characters, split at their punctuation with the original kept, lowercased) and `pattern`
(the text between runs of blanks, dashes and underscores, lowercased).
-/

namespace ConceptQuery

/-- A way to turn text into tokens.
Source: `Analyzer`, with `PipelineAnalyzer` and `ReplayAnalyzer`. -/
inductive Analyzer where
  /-- A tokenizer and filters, under a name. -/
  | pipeline (name : String) (tokenizer : Tokenizer) (filters : List TokenFilter)
  /-- A recorded token stream. -/
  | replay (tokens : List Token)

namespace Analyzer

/-- The name an analyzer reports.
Source: `Analyzer::name`. -/
def name : Analyzer → String
  | .pipeline n .. => n
  | .replay _ => "replay"

/-- The filters of a pipeline, in order; a replay analyzer has none.
Source: `PipelineAnalyzer::filters`. -/
def filters : Analyzer → List TokenFilter
  | .pipeline _ _ fs => fs
  | .replay _ => []

/-- The tokens of a text.
Source: `Analyzer::analyze`. -/
def analyze (a : Analyzer) (text : String) : List Token :=
  match a with
  | .pipeline _ tokenizer filters => TokenFilter.applyAll filters (tokenizer.tokenize text)
  | .replay tokens => tokens

/-- A pipeline named after its tokenizer.
Source: `PipelineAnalyzer::new`. -/
def ofTokenizer (t : Tokenizer) (filters : List TokenFilter) : Analyzer :=
  .pipeline t.name t filters

/-- `Analyzer(NAME)`, the debugging description of an analyzer.
Source: `Analyzer::fmt`. -/
def describe (a : Analyzer) : String := "Analyzer(" ++ a.name ++ ")"

/-- `NAME(TOKENIZER -> F1 -> F2)`, the debugging description of a pipeline's stages.
Source: `PipelineAnalyzer::fmt`. -/
def describeStages (name : String) (t : Tokenizer) (filters : List TokenFilter) : String :=
  name ++ "(" ++ t.name ++ " -> " ++ " -> ".intercalate (filters.map TokenFilter.name) ++ ")"

/-- Recorded tokens `(text, increment, start, stop)`: each token's position is the running sum of
the increments up to and including its own. -/
def recordedFrom (position : Nat) : List (String × Nat × Nat × Nat) → List Token
  | [] => []
  | (text, inc, start, stop) :: rest =>
    { Token.cut text (position + inc) start stop with increment := inc } ::
      recordedFrom (position + inc) rest

/-- The replay analyzer of recorded tokens `(text, increment, start, stop)`.
Source: `ReplayAnalyzer::new`. -/
def replayOf (records : List (String × Nat × Nat × Nat)) : Analyzer := .replay (recordedFrom 0 records)

/-- The replay analyzer of four columns of equal length.
Source: `ReplayAnalyzer::from_columns`. -/
def replayOfColumns (texts : List String) (increments starts stops : List Nat) :
    Except Error Analyzer :=
  let n := texts.length
  if increments.length != n || starts.length != n || stops.length != n then
    .error (.analysis ("Replay columns differ in length: " ++ toString n ++ " texts, " ++
      toString increments.length ++ " increments, " ++ toString starts.length ++ " starts, " ++
      toString stops.length ++ " ends"))
  else .ok (replayOf (texts.zip (increments.zip (starts.zip stops))))

/-- Unicode words, lowercased, with the given stop words removed and then synonyms.
Source: `StandardAnalyzer::assemble`. -/
def standardWith (name : String) (stop : Bool) (synonyms : Option SynonymTable) : Analyzer :=
  .pipeline name .words
    ([TokenFilter.lowercase] ++ (if stop then [.stop englishStopWords false] else []) ++
      (match synonyms with
       | some t => [.synonym t]
       | none => []))

/-- The standard analyzer.
Source: `StandardAnalyzer::new`. -/
def standard : Analyzer := standardWith "standard" true none

/-- The standard analyzer without stop words.
Source: `StandardAnalyzer::without_stop_words`. -/
def simple : Analyzer := standardWith "simple" false none

/-- The standard analyzer followed by synonyms.
Source: `StandardAnalyzer::with_synonyms`. -/
def standardSynonyms (t : SynonymTable) : Analyzer := standardWith "standard_synonyms" true (some t)

/-- Runs of non-blank characters, untouched.
Source: `WhitespaceAnalyzer::new`. -/
def whitespace : Analyzer := .pipeline "whitespace" .whitespace []

/-- Runs of non-blank characters, split at punctuation with the original kept, lowercased.
Source: the `word_delimiter` entry of `AnalyzerRegistry::with_defaults`. -/
def wordDelimiter : Analyzer :=
  .pipeline "word_delimiter" .whitespace [.wordDelimiter true, .lowercase]

/-- The text between runs of blanks, dashes and underscores, lowercased.
Source: the `pattern` entry of `AnalyzerRegistry::with_defaults`. -/
def patternSplit : Analyzer :=
  .pipeline "pattern"
    (.pattern "[\\s\\-_]+" (Tokenizer.automatonOf "[\\s\\-_]+") .gaps) [.lowercase]

end Analyzer

/-- Analyzers by name, sorted by name.
Source: `AnalyzerRegistry`. -/
structure AnalyzerRegistry where
  /-- The analyzers by name, sorted by name. -/
  entries : List (String × Analyzer)

namespace AnalyzerRegistry

/-- A registry without analyzers.
Source: `AnalyzerRegistry::new`. -/
def empty : AnalyzerRegistry := ⟨[]⟩

/-- Insert an analyzer into a list sorted by name, replacing one of the same name. -/
def insertSorted (name : String) (a : Analyzer) :
    List (String × Analyzer) → List (String × Analyzer)
  | [] => [(name, a)]
  | (n, b) :: rest =>
    if name < n then (name, a) :: (n, b) :: rest
    else if name == n then (name, a) :: rest
    else (n, b) :: insertSorted name a rest

/-- Register an analyzer under a name, replacing any earlier one.
Source: `AnalyzerRegistry::register`. -/
def register (r : AnalyzerRegistry) (name : String) (a : Analyzer) : AnalyzerRegistry :=
  ⟨insertSorted name a r.entries⟩

/-- The registry of the library's named analyzers.
Source: `AnalyzerRegistry::with_defaults`. -/
def defaults : AnalyzerRegistry :=
  ((((empty.register "standard" .standard).register "simple" .simple).register "whitespace"
    .whitespace).register "word_delimiter" .wordDelimiter).register "pattern" .patternSplit

/-- The analyzer registered under a name.
Source: `AnalyzerRegistry::get`. -/
def get (r : AnalyzerRegistry) (name : String) : Except Error Analyzer :=
  match r.entries.find? (·.1 == name) with
  | some (_, a) => .ok a
  | none => .error (.analysis ("Unknown analyzer [" ++ name ++ "]"))

/-- The name of the default analyzer.
Source: `DEFAULT_ANALYZER`. -/
def defaultName : String := "standard"

/-- The default analyzer: the one registered as `standard`.
Source: `AnalyzerRegistry::default_analyzer`. -/
def defaultAnalyzer (r : AnalyzerRegistry) : Except Error Analyzer := r.get defaultName

/-- The registered names, sorted.
Source: `AnalyzerRegistry::names`. -/
def names (r : AnalyzerRegistry) : List String := r.entries.map Prod.fst

/-- `AnalyzerRegistry { analyzers: [...] }`, the debugging description of a registry.
Source: `AnalyzerRegistry::fmt`. -/
def describe (r : AnalyzerRegistry) : String :=
  "AnalyzerRegistry \x7b analyzers: [" ++ ", ".intercalate (r.names.map Text.quoted) ++ "] \x7d"

end AnalyzerRegistry

end ConceptQuery
