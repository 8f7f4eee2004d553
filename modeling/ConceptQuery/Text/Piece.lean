/-!
# Pieces of a text

Tokenizers cut a text into pieces and report where each piece stands as byte offsets into the
text's UTF-8 encoding. A `Piece` is such a cut: its characters and the offsets of its first byte
and of the byte after it. `Piece.runs` cuts a text into its maximal runs of characters of one
class.
-/

namespace ConceptQuery.Text

/-- A contiguous piece of a text with the UTF-8 byte offsets of its ends. -/
structure Piece where
  /-- The characters of the piece. -/
  text : String
  /-- The offset of its first byte. -/
  start : Nat
  /-- The offset of the byte after it. -/
  stop : Nat
deriving Repr, DecidableEq

/-- The characters of `cs` paired with their byte offsets, the first one at `offset`. -/
def withOffsetsFrom (offset : Nat) : List Char → List (Char × Nat)
  | [] => []
  | c :: rest => (c, offset) :: withOffsetsFrom (offset + c.utf8Size) rest

/-- The characters of a text paired with their byte offsets. -/
def withOffsets (s : String) : List (Char × Nat) := withOffsetsFrom 0 s.toList

/-- The piece made of a run of characters with their offsets, ending at `stop`. -/
def Piece.ofRun (run : List (Char × Nat)) (stop : Nat) : Piece :=
  ⟨String.ofList (run.map Prod.fst), (run.head?.map Prod.snd).getD stop, stop⟩

/-- The piece of a run held last character first, if the run is not empty. -/
def flushRun (current : List (Char × Nat)) : List Piece :=
  match current with
  | [] => []
  | (c, offset) :: _ => [Piece.ofRun current.reverse (offset + c.utf8Size)]

/-- The maximal runs of characters satisfying `p`, in order, among characters with offsets;
`current` is the run being built, last character first. -/
def runsOf (p : Char → Bool) (current : List (Char × Nat)) : List (Char × Nat) → List Piece
  | [] => flushRun current
  | x :: rest =>
    if p x.1 then runsOf p (x :: current) rest else flushRun current ++ runsOf p [] rest

/-- The maximal runs of characters of a text that satisfy `p`, in order.
Source: the boundary loop of `WhitespaceTokenizer::tokenize`. -/
def Piece.runs (p : Char → Bool) (s : String) : List Piece := runsOf p [] (withOffsets s)

example : Piece.runs (· != ' ') "ab  é" = [⟨"ab", 0, 2⟩, ⟨"é", 4, 6⟩] := by decide +kernel

end ConceptQuery.Text
