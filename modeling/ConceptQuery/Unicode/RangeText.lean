/-!
# Range text

Tables of the Unicode Character Database are written here the way the database itself writes
them: code points in hexadecimal, a range of them as `first..last`, and entries separated by
single spaces, as in `0041..005A 0061..007A 00AA`. Such *range text* is short to write and quick
to read in; `decodeRanges` turns it into closed ranges of code points, in the order written.
-/

namespace ConceptQuery.Unicode

/-- The value of a hexadecimal digit, in either case. -/
def hexDigit? (c : Char) : Option Nat :=
  if '0' ≤ c && c ≤ '9' then some (c.toNat - '0'.toNat)
  else if 'A' ≤ c && c ≤ 'F' then some (c.toNat - 'A'.toNat + 10)
  else if 'a' ≤ c && c ≤ 'f' then some (c.toNat - 'a'.toNat + 10)
  else none

/-- The value of a non-empty run of hexadecimal digits. -/
def hexValue? (cs : List Char) : Option Nat :=
  if cs.isEmpty then none
  else cs.foldlM (fun acc c => (hexDigit? c).map (16 * acc + ·)) 0

/-- The pieces of a list of characters between the occurrences of a separator. -/
def splitOnChar (sep : Char) : List Char → List (List Char)
  | [] => [[]]
  | c :: rest =>
    if c == sep then [] :: splitOnChar sep rest
    else
      match splitOnChar sep rest with
      | w :: ws => (c :: w) :: ws
      | [] => [[c]]

/-- The range of one entry: `XXXX` is a single code point, `XXXX..YYYY` a range. -/
def readRange? (entry : List Char) : Option (Nat × Nat) :=
  match splitOnChar '.' entry with
  | [one] => (hexValue? one).map fun n => (n, n)
  | [first, [], last] => do
    let a ← hexValue? first
    let b ← hexValue? last
    pure (a, b)
  | _ => none

/-- The ranges of a range text, in the order written; what is no entry is passed over. -/
def decodeRanges (text : String) : List (Nat × Nat) :=
  (splitOnChar ' ' text.toList).filterMap readRange?

/-- The classes of a class text: classes separated by spaces, members by commas. -/
def decodeClasses (text : String) : List (List Nat) :=
  (splitOnChar ' ' text.toList).filterMap fun cls =>
    let members := (splitOnChar ',' cls).filterMap hexValue?
    if members.isEmpty then none else some members

example : decodeRanges "0041..005A 00AA" = [(0x41, 0x5A), (0xAA, 0xAA)] := by decide +kernel
example : decodeClasses "004B,006B,212A 0053,0073" = [[0x4B, 0x6B, 0x212A], [0x53, 0x73]] := by
  decide +kernel

end ConceptQuery.Unicode
