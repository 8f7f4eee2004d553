import ConceptQuery.Analysis.Token
import ConceptQuery.Text.Lowercase
import ConceptQuery.Text.Uppercase
import ConceptQuery.Text.Alphanumeric
import ConceptQuery.Text.Piece

/-!
# Token filters

A filter rewrites a token stream. Stopped tokens pass every filter unchanged, except that a
removing stop filter adds the increments of the words it removes to them as to any kept token.

* **lowercase** lowercases a token that holds an uppercase character (`Text.lowercase`).
* **stop** removes the tokens whose text is a stop word and adds their increments to the next
  kept token, so that positions do not move; or, marking only, keeps them with the stopped mark.
* **synonym** follows each token by its synonyms, stacked on its position (increment zero) with its
  span.
* **word delimiter** splits a compound token at its non-alphanumeric characters: the parts are the
  maximal alphanumeric runs, with their own spans. The first part takes the token's increment and
  the others stack on it; when the original is kept it comes first and the parts all stack on it.
  A token that is a single run, or holds no alphanumeric character, stays as it is.
-/

namespace ConceptQuery

/-- The English stop words.
Source: `ENGLISH_STOP_WORDS`. -/
def englishStopWords : List String :=
  ["a", "an", "and", "are", "as", "at", "be", "but", "by", "for", "if", "in", "into", "is", "it",
    "no", "not", "of", "on", "or", "such", "that", "the", "their", "then", "there", "these",
    "they", "this", "to", "was", "will", "with"]

namespace StopFilter

/-- Whether a word is one of the stop words.
Source: `StopFilter::is_stop_word`. -/
def isStopWord (words : List String) (word : String) : Bool := words.contains word

/-- The number of stop words, a word given twice counted once.
Source: `StopFilter::len`. -/
def size (words : List String) : Nat := words.eraseDups.length

/-- Whether there is no stop word.
Source: `StopFilter::is_empty`. -/
def isEmpty (words : List String) : Bool := words.isEmpty

end StopFilter

/-- Words with their synonyms, in the order the words were first given.
Source: `SynonymFilter`. -/
structure SynonymTable where
  /-- Each word with its synonyms, in the order the words were first given. -/
  entries : List (String × List String)

namespace SynonymTable

/-- No synonyms.
Source: `SynonymFilter::new`. -/
def empty : SynonymTable := ⟨[]⟩

/-- Append synonyms to a word's list in a list of entries, adding the word if it is new. -/
def addTo (word : String) (syns : List String) :
    List (String × List String) → List (String × List String)
  | [] => [(word, syns)]
  | (w, s) :: rest => if w == word then (w, s ++ syns) :: rest else (w, s) :: addTo word syns rest

/-- Give more synonyms to a word.
Source: `SynonymFilter::with_synonyms`. -/
def add (t : SynonymTable) (word : String) (syns : List String) : SynonymTable :=
  ⟨addTo word syns t.entries⟩

/-- A table of entries given in order. -/
def ofList (entries : List (String × List String)) : SynonymTable :=
  entries.foldl (fun t (w, s) => t.add w s) empty

/-- The synonyms of a word.
Source: `SynonymFilter::synonyms_of`. -/
def synonymsOf (t : SynonymTable) (word : String) : List String :=
  ((t.entries.find? (·.1 == word)).map Prod.snd).getD []

/-- The number of words with an entry.
Source: `SynonymFilter::len`. -/
def size (t : SynonymTable) : Nat := t.entries.length

/-- Whether no word has an entry.
Source: `SynonymFilter::is_empty`. -/
def isEmpty (t : SynonymTable) : Bool := t.entries.isEmpty

end SynonymTable

/-- A token filter.
Source: `Filter`, with its four filters. -/
inductive TokenFilter where
  /-- Lowercase tokens with an uppercase character. -/
  | lowercase
  /-- Remove stop words, or only mark them. -/
  | stop (words : List String) (markOnly : Bool)
  /-- Stack synonyms on their words. -/
  | synonym (table : SynonymTable)
  /-- Split compounds into their alphanumeric parts, keeping the original or not. -/
  | wordDelimiter (preserveOriginal : Bool)

namespace TokenFilter

/-- The name a filter reports.
Source: `Filter::name`. -/
def name : TokenFilter → String
  | .lowercase => "lowercase"
  | .stop .. => "stop"
  | .synonym _ => "synonym"
  | .wordDelimiter _ => "word_delimiter"

/-- Lowercase a token that is not stopped and holds an uppercase character.
Source: `LowercaseFilter::lower`. -/
def lowerToken (t : Token) : Token :=
  if !t.stopped && t.text.toList.any Text.isUppercase then t.withText (Text.lowercase t.text)
  else t

/-- Remove or mark stop words; `carried` is the increment of the words removed since the last
kept token.
Source: `StopFilter::filter`. -/
def stopFrom (words : List String) (markOnly : Bool) (carried : Nat) : List Token → List Token
  | [] => []
  | t :: rest =>
    if !t.stopped && StopFilter.isStopWord words t.text then
      if markOnly then { t with stopped := true } :: stopFrom words markOnly carried rest
      else stopFrom words markOnly (carried + t.increment) rest
    else { t with increment := t.increment + carried } :: stopFrom words markOnly 0 rest

/-- A token followed by its synonyms.
Source: `SynonymFilter::filter`. -/
def withSynonyms (table : SynonymTable) (t : Token) : List Token :=
  let syns := if t.stopped then [] else table.synonymsOf t.text
  t :: syns.map fun s => { t.withText s with increment := 0 }

/-- The byte ranges of the maximal alphanumeric runs of a text.
Source: `WordDelimiterFilter::parts`. -/
def alphanumericRuns (text : String) : List (Nat × Nat) :=
  (Text.Piece.runs Text.isAlphanumeric text).map fun p => (p.start, p.stop)

/-- The parts of a token at the given byte ranges of its text, the first with `increment` and the
others stacked on it.
Source: the parts loop of `WordDelimiterFilter::split`. -/
def partsOf (t : Token) (increment : Nat) : List (Nat × Nat) → List Token
  | [] => []
  | (s, e) :: rest =>
    let text := String.ofList
      (((Text.withOffsets t.text).filter fun (_, o) => s ≤ o && o < e).map Prod.fst)
    { t with text := text, start := t.start + s, stop := t.start + e, increment := increment } ::
      partsOf t 0 rest

/-- Split a compound token.
Source: `WordDelimiterFilter::split`. -/
def delimit (preserveOriginal : Bool) (t : Token) : List Token :=
  let runs := alphanumericRuns t.text
  let single := runs == [(0, t.text.utf8ByteSize)]
  if t.stopped || runs.isEmpty || single then [t]
  else if preserveOriginal then t :: partsOf t 0 runs
  else partsOf t t.increment runs

/-- Run a filter over a token stream.
Source: `Filter::filter`. -/
def apply : TokenFilter → List Token → List Token
  | .lowercase, ts => ts.map lowerToken
  | .stop words markOnly, ts => stopFrom words markOnly 0 ts
  | .synonym table, ts => ts.flatMap (withSynonyms table)
  | .wordDelimiter keep, ts => ts.flatMap (delimit keep)

/-- Run filters over a token stream, one after another.
Source: the fold over the filters in `PipelineAnalyzer::analyze`. -/
def applyAll (filters : List TokenFilter) (ts : List Token) : List Token :=
  filters.foldl (fun ts f => f.apply ts) ts

end TokenFilter

end ConceptQuery
