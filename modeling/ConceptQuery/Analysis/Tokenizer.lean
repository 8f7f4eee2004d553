import ConceptQuery.Analysis.Token
import ConceptQuery.Regex.Search
import ConceptQuery.Text.Words
import ConceptQuery.Error

/-!
# Tokenizers

A tokenizer cuts a text into tokens, numbered from zero, each moving the position by one and
carrying the byte range it was cut from:

* `whitespace`: the maximal runs of non-blank characters;
* `words`: the pieces between Unicode word boundaries that hold an alphanumeric character;
* `pattern`: the matches of a regular expression (empty matches dropped), or the text between
  its matches (empty gaps dropped).
-/

namespace ConceptQuery

/-- What the matches of a tokenizer's pattern are.
Source: `RegexMode`. -/
inductive PatternMode where
  /-- The matches are the tokens. -/
  | matches
  /-- The matches separate the tokens. -/
  | gaps
deriving Repr, DecidableEq

/-- A way to cut text into tokens.
Source: `Tokenizer`, with `WhitespaceTokenizer`, `UnicodeWordTokenizer`, `RegexTokenizer`. -/
inductive Tokenizer where
  /-- Runs of non-blank characters. -/
  | whitespace
  /-- Unicode words. -/
  | words
  /-- Matches of a pattern, or the gaps between them; `source` is the pattern as written. -/
  | pattern (source : String) (automaton : Regex.Automaton) (mode : PatternMode)

namespace Tokenizer

/-- The name a tokenizer reports.
Source: `Tokenizer::name`. -/
def name : Tokenizer → String
  | .whitespace => "whitespace"
  | .words => "unicode_word"
  | .pattern .. => "regex"

/-- A pattern tokenizer; the pattern must be valid.
Source: `RegexTokenizer::build`. -/
def ofPattern (source : String) (mode : PatternMode) : Except Error Tokenizer :=
  match Regex.Automaton.ofString source with
  | .ok a => .ok (.pattern source a mode)
  | .error _ => .error (.analysis "Invalid regex pattern")

/-- The automaton of a pattern known to be valid (one that matches nothing otherwise). -/
def automatonOf (source : String) : Regex.Automaton :=
  match Regex.Automaton.ofString source with
  | .ok a => a
  | .error _ => ⟨#[], 0, 1⟩

/-- The pattern tokenizer of matches of word characters, `\w+`.
Source: `RegexTokenizer::new`. -/
def wordRuns : Tokenizer := .pattern "\\w+" (automatonOf "\\w+") .matches

/-- Tokens of pieces, numbered in order.
Source: the numbering in `RegexTokenizer::tokenize`. -/
def numbered (pieces : List Text.Piece) : List Token :=
  (pieces.zipIdx).map fun (p, i) => Token.cut p.text i p.start p.stop

/-- The byte offset of each character of a text, and of its end. -/
def byteOffsets (cs : List Char) : Array Nat :=
  (cs.foldl (fun (acc : Array Nat × Nat) c => (acc.1.push acc.2, acc.2 + c.utf8Size))
    (#[], 0)) |> fun (offsets, total) => offsets.push total

/-- The tokens of the segments of a text that hold an alphanumeric character, in order, each
numbered by the tokens before it. The segments are the pieces between the text's word
boundaries.
Source: `UnicodeWordTokenizer::tokenize`. -/
def wordsOf (segments : List Text.Piece) : List Token :=
  segments.foldl (fun tokens p =>
    if p.text.toList.any Text.isAlphanumeric then
      tokens ++ [Token.cut p.text tokens.length p.start p.stop]
    else tokens) []

/-- The gaps between matches: from the end of one match to the start of the next, and after the
last match, those that are not empty.
Source: the gaps loop of `RegexTokenizer::spans`. -/
def gapsBetween (size : Nat) : Nat → List (Nat × Nat) → List (Nat × Nat)
  | lastEnd, [] => if lastEnd < size then [(lastEnd, size)] else []
  | lastEnd, (s, e) :: rest =>
    if s > lastEnd then (lastEnd, s) :: gapsBetween size e rest else gapsBetween size e rest

/-- The character ranges a pattern tokenizer cuts from a text of `size` characters, given the
matches of its pattern there: the non-empty matches, or the non-empty gaps around them.
Source: `RegexTokenizer::spans`. -/
def patternRanges (mode : PatternMode) (size : Nat) (found : List (Nat × Nat)) :
    List (Nat × Nat) :=
  match mode with
  | .matches => found.filter fun (s, e) => e > s
  | .gaps => gapsBetween size 0 found

/-- The tokens of ranges of characters, numbered in order, each at the bytes the characters
before its ends take.
Source: `RegexTokenizer::tokenize`. -/
def cutRanges (cs : List Char) (ranges : List (Nat × Nat)) : List Token :=
  let offsets := byteOffsets cs
  numbered (ranges.map fun (s, e) =>
    (⟨String.ofList ((cs.drop s).take (e - s)), offsets.getD s 0, offsets.getD e 0⟩ : Text.Piece))

/-- The tokens of a text.
Source: `Tokenizer::tokenize`. -/
def tokenize (t : Tokenizer) (text : String) : List Token :=
  match t with
  | .whitespace => numbered (Text.Piece.runs (fun c => !Text.isBlank c) text)
  | .words => wordsOf (Text.Piece.wordBounds text)
  | .pattern _ automaton mode =>
    let cs := text.toList
    cutRanges cs (patternRanges mode cs.length (automaton.findAll cs.toArray))

end Tokenizer

end ConceptQuery
