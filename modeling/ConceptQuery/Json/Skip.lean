import ConceptQuery.Json.Read

/-!
# Passing over a JSON value

A reader of records passes over the members it does not know without keeping their values.
Passing over checks the grammar only, and more leniently than reading: numbers are not evaluated,
so none is too large; the four digits of a `\u` escape are not interpreted, so a lone surrogate
passes; nesting has no limit.

Its faults are those of reading (`Json.read`) but in four places: a comma before a closing
bracket is reported as a missing value, one before a closing brace as a key that is not a
string, a control character in a string where it stands rather than after it, and a number cut
short by the end of the text as an invalid number.
-/

namespace ConceptQuery.Json

/-- Pass over the rest of a string after its opening quote, up to and including the closing
quote. -/
def skipString : Nat → List Char → Except Failure (List Char)
  | 0, cs => failAt .endInString cs
  | _ + 1, [] => failAt .endInString []
  | _ + 1, '"' :: rest => pure rest
  | fuel + 1, '\\' :: rest =>
    match rest with
    | [] => failAt .endInString []
    | e :: more =>
      if (shortEscape e).isSome then skipString fuel more
      else if e == 'u' then do
        let (_, after) ← readHex4 more
        skipString fuel after
      else failPast .invalidEscape (e :: more)
  | fuel + 1, c :: rest =>
    if c.toNat < 0x20 then failAt .controlCharacter (c :: rest) else skipString fuel rest

/-- Pass over an exponent after its `e`: an optional sign, then at least one digit. -/
def skipExponent (cs : List Char) : Except Failure (List Char) :=
  let rest :=
    match cs with
    | '+' :: r => r
    | '-' :: r => r
    | r => r
  match rest with
  | c :: more => if c.isDigit then pure (skipDigits more) else failPast .invalidNumber (c :: more)
  | [] => failAt .invalidNumber []

/-- Pass over what may follow the integer part of a number: a fraction of at least one digit,
then an exponent, or an exponent alone. -/
def skipFraction : List Char → Except Failure (List Char)
  | '.' :: rest =>
    match rest with
    | c :: more =>
      if c.isDigit then
        match skipDigits more with
        | e :: after => if e == 'e' || e == 'E' then skipExponent after else pure (e :: after)
        | [] => pure []
      else failPast .invalidNumber rest
    | [] => failAt .invalidNumber []
  | c :: rest => if c == 'e' || c == 'E' then skipExponent rest else pure (c :: rest)
  | [] => pure []

/-- Pass over a number after its optional minus sign: an integer part without leading zeros,
then a fraction or an exponent. -/
def skipNumber : List Char → Except Failure (List Char)
  | '0' :: rest =>
    match rest with
    | c :: _ => if c.isDigit then failPast .invalidNumber rest else skipFraction rest
    | [] => pure []
  | c :: rest =>
    if c.isDigit then skipFraction (skipDigits rest) else failPast .invalidNumber (c :: rest)
  | [] => failAt .invalidNumber []

mutual

/-- Pass over a value after optional whitespace. -/
def skipValue : Nat → List Char → Except Failure (List Char)
  | 0, cs => failAt .endInValue cs
  | fuel + 1, cs =>
    match skipSpace cs with
    | [] => failAt .endInValue []
    | 'n' :: rest => readLetters ['u', 'l', 'l'] rest
    | 't' :: rest => readLetters ['r', 'u', 'e'] rest
    | 'f' :: rest => readLetters ['a', 'l', 's', 'e'] rest
    | '-' :: rest => skipNumber rest
    | '"' :: rest => skipString fuel rest
    | '[' :: rest => skipItems fuel true rest
    | '{' :: rest => skipMembers fuel true rest
    | c :: rest => if c.isDigit then skipNumber (c :: rest) else failPast .expectedValue (c :: rest)

/-- Pass over the items of an array after its opening bracket, up to and including the closing
bracket; `first` tells whether no item has been passed yet. -/
def skipItems : Nat → Bool → List Char → Except Failure (List Char)
  | 0, _, cs => failAt .endInList cs
  | fuel + 1, first, cs =>
    match skipSpace cs with
    | [] => failAt .endInList []
    | ']' :: rest => pure rest
    | c :: rest =>
      if first then do
        let r ← skipValue fuel (c :: rest)
        skipItems fuel false r
      else if c == ',' then do
        let r ← skipValue fuel rest
        skipItems fuel false r
      else failPast .expectedCommaOrBracket (c :: rest)

/-- Pass over the members of an object after its opening brace, up to and including the closing
brace; `first` tells whether no member has been passed yet. -/
def skipMembers : Nat → Bool → List Char → Except Failure (List Char)
  | 0, _, cs => failAt .endInObject cs
  | fuel + 1, first, cs =>
    match skipSpace cs with
    | [] => failAt .endInObject []
    | '}' :: rest => pure rest
    | c :: rest =>
      if first then do
        let r ← skipMember fuel (c :: rest)
        skipMembers fuel false r
      else if c == ',' then do
        let r ← skipMember fuel rest
        skipMembers fuel false r
      else failPast .expectedCommaOrBrace (c :: rest)

/-- Pass over one member of an object, from optional whitespace before its key to the end of its
value. -/
def skipMember : Nat → List Char → Except Failure (List Char)
  | 0, cs => failAt .endInObject cs
  | fuel + 1, cs =>
    match skipSpace cs with
    | '"' :: rest => do
      let afterKey ← skipString fuel rest
      let afterColon ← readColon afterKey
      skipValue fuel afterColon
    | [] => failAt .endInObject []
    | c :: rest => failPast .keyNotString (c :: rest)

end

end ConceptQuery.Json
