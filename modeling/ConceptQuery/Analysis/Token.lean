/-!
# Tokens

Analysis turns a text into a stream of tokens. A token carries its text, the byte range of the
input it was cut from, its position, and how far it moves the position counter: an increment of
zero stacks the token on the previous position, which is how filters add the parts of a compound
or alternate spellings. A stopped token stays in the stream, marked, and moves the counter like
any other.
-/

namespace ConceptQuery

/-- A token of an analyzed text.
Source: `Token`. -/
structure Token where
  /-- The token's text. -/
  text : String
  /-- The position the tokenizer gave it. -/
  position : Nat
  /-- The byte offset where it starts in the input. -/
  start : Nat
  /-- The byte offset after its end in the input. -/
  stop : Nat
  /-- Whether a stop filter marked it. -/
  stopped : Bool
  /-- How far it moves the position counter. -/
  increment : Nat
deriving Repr, DecidableEq

namespace Token

/-- A token cut from `[start, stop)` at a position, not stopped, moving the counter by one.
Source: `Token::with_offsets`. -/
def cut (text : String) (position start stop : Nat) : Token :=
  ⟨text, position, start, stop, false, 1⟩

/-- The same token with another text; its span, position, increment and mark are kept.
Source: `Token::with_text`. -/
def withText (t : Token) (text : String) : Token := { t with text := text }

/-- The length of the token's text in UTF-8 bytes.
Source: `Token::len`. -/
def length (t : Token) : Nat := t.text.utf8ByteSize

/-- Whether the token's text is empty.
Source: `Token::is_empty`. -/
def isEmpty (t : Token) : Bool := t.text.isEmpty

/-- `text@+INCREMENT[START..END]`.
Source: `Token::fmt`. -/
def render (t : Token) : String :=
  t.text ++ "@+" ++ toString t.increment ++ "[" ++ toString t.start ++ ".." ++ toString t.stop ++
    "]"

end Token

end ConceptQuery
