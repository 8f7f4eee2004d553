/-!
# Why a JSON text is refused

A reader that refuses a text says why and where. A `Fault` names the cause: the text ends inside
a value, a character that cannot stand where it stands, a number too large, nesting too deep, or,
for a text read as a record of given fields, a value of the wrong kind, a field missing or given
twice. A `Failure` pins the fault to a place of the text.

**Places.** A reader works on the characters still to be read, so a failure records that rest of
the text, `rest`, and a count of bytes past its start, `ahead`: a reader that looked at a
character to decide it cannot stand there reports the place one byte past its start, and a reader
that took four bytes of an escape reports the place after them. The place is a byte offset into
the text, never past its end. It is shown as a line, counted from 1, and a column, the number of
bytes between the start of that line and the place, so a fault on the first character of a line
is in column 1 and the end of an empty text is line 1, column 0.
-/

namespace ConceptQuery.Json

/-- The cause of a refused JSON text. -/
inductive Fault where
  /-- The text ends inside an array. -/
  | endInList
  /-- The text ends inside an object. -/
  | endInObject
  /-- The text ends inside a string. -/
  | endInString
  /-- The text ends where a value, or the rest of one, should follow. -/
  | endInValue
  /-- A member's key is not followed by a colon. -/
  | expectedColon
  /-- An item of an array is followed by something other than a comma or the closing bracket. -/
  | expectedCommaOrBracket
  /-- A member of an object is followed by something other than a comma or the closing brace. -/
  | expectedCommaOrBrace
  /-- A letter of `null`, `true` or `false` is wrong. -/
  | expectedIdent
  /-- A value cannot start with the character found. -/
  | expectedValue
  /-- A backslash in a string is followed by something that is no escape. -/
  | invalidEscape
  /-- A number is malformed. -/
  | invalidNumber
  /-- A number is too large for a double. -/
  | numberOutOfRange
  /-- A string holds a control character below U+0020. -/
  | controlCharacter
  /-- An object's member does not start with a string. -/
  | keyNotString
  /-- A `\u` escape names a surrogate that is not part of a pair. -/
  | loneSurrogate
  /-- The escape of a high surrogate is not followed by a second `\u` escape. -/
  | unfinishedSurrogatePair
  /-- A comma stands before a closing bracket or brace. -/
  | trailingComma
  /-- Something follows the value of the text. -/
  | trailingCharacters
  /-- Arrays and objects are nested too deeply. -/
  | tooDeep
  /-- A value of another kind than the one expected: both named in words. -/
  | invalidType (found expected : String)
  /-- An array with too few items for a record: their count, and what was expected. -/
  | invalidLength (count : Nat) (expected : String)
  /-- A field of a record is missing. -/
  | missingField (name : String)
  /-- A field of a record is given twice. -/
  | duplicateField (name : String)
deriving Repr, DecidableEq

/-- The description of a fault. -/
def Fault.text : Fault → String
  | .endInList => "EOF while parsing a list"
  | .endInObject => "EOF while parsing an object"
  | .endInString => "EOF while parsing a string"
  | .endInValue => "EOF while parsing a value"
  | .expectedColon => "expected `:`"
  | .expectedCommaOrBracket => "expected `,` or `]`"
  | .expectedCommaOrBrace => "expected `,` or `\x7d`"
  | .expectedIdent => "expected ident"
  | .expectedValue => "expected value"
  | .invalidEscape => "invalid escape"
  | .invalidNumber => "invalid number"
  | .numberOutOfRange => "number out of range"
  | .controlCharacter => "control character (\\u0000-\\u001F) found while parsing a string"
  | .keyNotString => "key must be a string"
  | .loneSurrogate => "lone leading surrogate in hex escape"
  | .unfinishedSurrogatePair => "unexpected end of hex escape"
  | .trailingComma => "trailing comma"
  | .trailingCharacters => "trailing characters"
  | .tooDeep => "recursion limit exceeded"
  | .invalidType found expected => "invalid type: " ++ found ++ ", expected " ++ expected
  | .invalidLength count expected =>
    "invalid length " ++ toString count ++ ", expected " ++ expected
  | .missingField name => "missing field `" ++ name ++ "`"
  | .duplicateField name => "duplicate field `" ++ name ++ "`"

/-- A fault at a place of a text. -/
structure Failure where
  /-- What is wrong. -/
  fault : Fault
  /-- The text from where the reader stood on. -/
  rest : List Char
  /-- How many bytes past the start of `rest` the fault is reported. -/
  ahead : Nat := 0
deriving Repr, DecidableEq

/-- The number of bytes of characters in UTF-8. -/
def byteLength (cs : List Char) : Nat := cs.foldr (fun c n => c.utf8Size + n) 0

/-- The line and column of a byte offset into a text's bytes: the line is one more than the
number of line feeds before the offset, the column the number of bytes after the last of them. -/
def lineColumn (bytes : List UInt8) (offset : Nat) : Nat × Nat :=
  let before := bytes.take offset
  (before.count 10 + 1, (before.reverse.takeWhile (· != 10)).length)

namespace Failure

/-- The byte offset of a failure in a text, at most the text's length. -/
def offset (text : String) (f : Failure) : Nat :=
  let size := text.utf8ByteSize
  min size (size - byteLength f.rest + f.ahead)

/-- The description of a failure in a text: the fault, then its line and column. -/
def describe (text : String) (f : Failure) : String :=
  let (line, column) := lineColumn text.toUTF8.toList (f.offset text)
  f.fault.text ++ " at line " ++ toString line ++ " column " ++ toString column

end Failure

example :
    Failure.describe "" ⟨.endInValue, [], 0⟩ = "EOF while parsing a value at line 1 column 0" := by
  decide +kernel

end ConceptQuery.Json
