import ConceptQuery.Text.WordBreak
import ConceptQuery.Text.Piece

/-!
# Word boundaries

The default word boundaries of Unicode Standard Annex 29 cut a text into pieces: words, runs of
spaces, punctuation marks, ideographs one by one. `Piece.wordBounds` returns all of them in
order, so that they tile the text.

Between two characters the rules of the annex apply in order, and the first that matches
decides; a boundary falls where none forbids it:

* a carriage return and a line feed stay together, and any other line break is cut on both sides;
* a zero-width joiner stays with a following pictograph, and horizontal spaces stay together;
* extenders, format characters and joiners stay with what comes before them, and the rules
  below then look through them (rule WB4);
* letters stay together, also across one mid-letter punctuation between letters (`can't`,
  `e.g`), and Hebrew letters across quotation marks;
* digits stay together, also across one mid-number punctuation between digits (`3.14`,
  `1,000`), and with adjacent letters;
* a mid-letter or mid-number punctuation after a letter or digit also stays when a zero-width
  joiner and a pictograph follow it;
* katakana stay together; connector punctuation such as `_` joins letters, digits and katakana;
* regional indicators pair up into flags.
-/

namespace ConceptQuery.Text

namespace WordBreak

/-- The classes that stay with what comes before them (rule WB4). -/
def isIgnorable : WordBreak → Bool
  | .extend | .format | .zwj => true
  | _ => false

/-- The line break classes. -/
def isLineBreak : WordBreak → Bool
  | .cr | .lf | .newline => true
  | _ => false

/-- Letters of alphabets and Hebrew letters. -/
def isLetter : WordBreak → Bool
  | .aLetter | .hebrewLetter => true
  | _ => false

/-- Punctuation allowed between letters. -/
def isMidLetter : WordBreak → Bool
  | .midLetter | .midNumLet | .singleQuote => true
  | _ => false

/-- Punctuation allowed between digits. -/
def isMidNumber : WordBreak → Bool
  | .midNum | .midNumLet | .singleQuote => true
  | _ => false

end WordBreak

/-- The class that stands for the text before a boundary, given the classes before it nearest
first: extenders are looked through unless a line break or the start of the text comes before
them. Returns that class and the classes before its character. -/
def settleBefore : List WordBreak → Option (WordBreak × List WordBreak)
  | [] => none
  | [k] => some (k, [])
  | k :: j :: rest =>
    if k.isIgnorable && !j.isLineBreak then settleBefore (j :: rest) else some (k, j :: rest)

/-- The number of regional indicators that end the text before a boundary, extenders looked
through, at most `fuel` of them. -/
def indicatorRun : Nat → List WordBreak → Nat
  | 0, _ => 0
  | fuel + 1, before =>
    match settleBefore before with
    | some (.regionalIndicator, rest) => indicatorRun fuel rest + 1
    | _ => 0

/-- Whether the rules on letters, digits, katakana, connectors and regional indicators (WB5 to
WB16) keep the character of class `b` with the text before it. `a` is the class standing before
the boundary, `beforeA` the one standing before that, `afterB` the first class after `b` that is
not looked through, and `indicators` the number of regional indicators just before the boundary.

A mid-word punctuation mark `b` is also kept when what follows it, looked through, is a pictograph
joined to it by a zero-width joiner (`pictographNext`): the joined pictograph then ends the word,
as in `wi.` + joiner + `❤`. -/
def joins (beforeA : Option WordBreak) (a b : WordBreak) (afterB : Option WordBreak)
    (pictographNext : Bool) (indicators : Nat) : Bool :=
  let letter := fun (k : Option WordBreak) => k.map WordBreak.isLetter == some true
  (a.isLetter && b.isLetter) ||
  (a.isLetter && b.isMidLetter && (letter afterB || pictographNext)) ||
  (a.isMidLetter && b.isLetter && letter beforeA) ||
  (a == .hebrewLetter && b == .singleQuote) ||
  (a == .hebrewLetter && b == .doubleQuote &&
    (afterB == some .hebrewLetter || pictographNext)) ||
  (a == .doubleQuote && b == .hebrewLetter && beforeA == some .hebrewLetter) ||
  (a == .numeric && b == .numeric) ||
  (a.isLetter && b == .numeric) ||
  (a == .numeric && b.isLetter) ||
  (a.isMidNumber && b == .numeric && beforeA == some .numeric) ||
  (a == .numeric && b.isMidNumber && (afterB == some .numeric || pictographNext)) ||
  (a == .katakana && b == .katakana) ||
  ((a.isLetter || a == .numeric || a == .katakana || a == .extendNumLet) &&
    b == .extendNumLet) ||
  (a == .extendNumLet && (b.isLetter || b == .numeric || b == .katakana)) ||
  (a == .regionalIndicator && b == .regionalIndicator && indicators % 2 == 1)

/-- A character of a text with its byte offset, its word break class and whether it is a
pictograph. -/
structure Classified where
  /-- The character. -/
  char : Char
  /-- Its byte offset in the text. -/
  offset : Nat
  /-- Its word break class. -/
  wordBreak : WordBreak
  /-- Whether it is an extended pictograph. -/
  pictograph : Bool

/-- The classified characters of a text. -/
def classify (s : String) : List Classified :=
  (withOffsets s).map fun (c, offset) => ⟨c, offset, wordBreakClass c.toNat, isPictographic c⟩

/-- Whether a word boundary falls between the characters whose classes are `before` (nearest
first) and the character `b` followed by the characters `after`. -/
def isWordBound (before : List WordBreak) (b : Classified) (after : List Classified) : Bool :=
  match before with
  | [] => true
  | a :: _ =>
    let k := b.wordBreak
    if a == .cr && k == .lf then false
    else if a.isLineBreak || k.isLineBreak then true
    else if a == .zwj && b.pictograph then false
    else if a == .wSegSpace && k == .wSegSpace then false
    else if k.isIgnorable then false
    else
      match settleBefore before with
      | none => true
      | some (a', rest) =>
        let beforeA := (settleBefore rest).map Prod.fst
        let next := after.find? (fun x => !x.wordBreak.isIgnorable)
        let joiner := (after.takeWhile (·.wordBreak.isIgnorable)).getLast?.map (·.wordBreak)
        let pictographNext := joiner == some .zwj && next.map (·.pictograph) == some true
        !joins beforeA a' k (next.map Classified.wordBreak) pictographNext
          (indicatorRun before.length before)

/-- The characters with offsets of a piece, first first. -/
def Classified.runOf (current : List Classified) : List (Char × Nat) :=
  current.reverse.map fun x => (x.char, x.offset)

/-- Cut classified characters at word boundaries: `before` holds the classes of everything
before them (nearest first), `current` the characters of the piece being built (last first). -/
def cutWords (before : List WordBreak) (current : List Classified) : List Classified → List Piece
  | [] =>
    match current with
    | [] => []
    | x :: _ => [Piece.ofRun (Classified.runOf current) (x.offset + x.char.utf8Size)]
  | x :: rest =>
    if isWordBound before x rest && !current.isEmpty then
      Piece.ofRun (Classified.runOf current) x.offset :: cutWords (x.wordBreak :: before) [x] rest
    else cutWords (x.wordBreak :: before) (x :: current) rest

/-- The pieces of a text between consecutive word boundaries, in order.
Source: `split_word_bound_indices`, as `UnicodeWordTokenizer::tokenize` calls it. -/
def Piece.wordBounds (s : String) : List Piece := cutWords [] [] (classify s)

example : (Piece.wordBounds "can't stop 3.14").map Piece.text =
    ["can't", " ", "stop", " ", "3.14"] := by decide +kernel
example : (Piece.wordBounds "東京タワー").map Piece.text = ["東", "京", "タワー"] := by
  decide +kernel

end ConceptQuery.Text
