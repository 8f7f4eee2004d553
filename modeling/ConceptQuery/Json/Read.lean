import ConceptQuery.Json.Value
import ConceptQuery.Json.Fault

/-!
# Reading JSON text

`Json.read` reads one JSON value surrounded by optional whitespace, strictly by the grammar of
RFC 8259: no comments, no trailing commas, no leading zeros, no control characters inside
strings, escapes `\" \\ \/ \b \f \n \r \t \uXXXX` with surrogate pairs joined and lone
surrogates refused. `Json.parse` tells only whether a text is JSON, and its value.

**Numbers.** An integer without fraction or exponent stays an integer while it fits in 64 bits:
`0` to `2^64 - 1`, and `-1` down to `-2^63`. Any other number, `-0` included, becomes a double:
its digits are gathered into a 64-bit significand (later digits are dropped and only shift the
exponent), the significand is rounded to a double and then multiplied or divided by the double
nearest to the power of ten of the exponent (`ofParts`). This two-step rounding can miss the
nearest double by a unit in the last place, as in `1e-30`; it is the reader's behaviour, kept
exactly. A number whose value overflows the doubles is refused. **Nesting** is limited to 127 levels
of arrays and objects. Objects read as maps: keys sorted, the last of repeated keys winning.

**Failures.** A text that is not JSON is refused with the first fault met reading from the left
(`Failure`). What cannot start or continue a value is reported one byte past the character that
showed it; a text that ends early, at its end; a number too large, right after its last digit; a
bad or lone escape, after the escape. Whitespace is skipped before a fault is looked for.

Between two steps that go deeper the reader consumes at least one character, and at most two
steps are taken per character, so a budget of two steps per character of the text, plus two, is
never exhausted; each step takes its share of that budget as an explicit `fuel` argument.
-/

namespace ConceptQuery.Json

/-- Stop with a fault at the start of `rest`. -/
def failAt {α : Type} (fault : Fault) (rest : List Char) : Except Failure α :=
  .error ⟨fault, rest, 0⟩

/-- Stop with a fault one byte past the start of `rest`: at a character looked at and refused. -/
def failPast {α : Type} (fault : Fault) (rest : List Char) : Except Failure α :=
  .error ⟨fault, rest, 1⟩

/-- Skip JSON whitespace. -/
def skipSpace : List Char → List Char
  | c :: rest =>
    if c == ' ' || c == '\t' || c == '\n' || c == '\r' then skipSpace rest else c :: rest
  | [] => []

/-- The value of a hexadecimal digit. -/
def hexValue (c : Char) : Option Nat :=
  if '0' ≤ c && c ≤ '9' then some (c.toNat - '0'.toNat)
  else if 'a' ≤ c && c ≤ 'f' then some (c.toNat - 'a'.toNat + 10)
  else if 'A' ≤ c && c ≤ 'F' then some (c.toNat - 'A'.toNat + 10)
  else none

/-- The four hexadecimal digits of a `\u` escape. The escape takes four bytes: when fewer are
left the string ends inside it, and when they are not four hexadecimal digits the escape is
invalid, reported after them. -/
def readHex4 (cs : List Char) : Except Failure (Nat × List Char) :=
  match cs with
  | a :: b :: c :: d :: rest =>
    match hexValue a, hexValue b, hexValue c, hexValue d with
    | some va, some vb, some vc, some vd => pure (((va * 16 + vb) * 16 + vc) * 16 + vd, rest)
    | _, _, _, _ => .error ⟨.invalidEscape, cs, 4⟩
  | _ => if 4 ≤ byteLength cs then .error ⟨.invalidEscape, cs, 4⟩ else failAt .endInString []

/-- The character of a `\u` escape whose four digits have been read as `unit`. A high surrogate
must be followed by the `\u` escape of a low surrogate, the two making one character; a low
surrogate alone is refused. -/
def readUnicodeEscape (unit : Nat) (rest : List Char) : Except Failure (Char × List Char) :=
  if 0xDC00 ≤ unit && unit < 0xE000 then failAt .loneSurrogate rest
  else if 0xD800 ≤ unit && unit < 0xDC00 then
    match rest with
    | '\\' :: 'u' :: digits => do
      let (low, after) ← readHex4 digits
      if 0xDC00 ≤ low && low < 0xE000 then
        pure (Char.ofNat (0x10000 + (unit - 0xD800) * 0x400 + (low - 0xDC00)), after)
      else failAt .loneSurrogate after
    | ['\\'] => failAt .endInString []
    | '\\' :: other => failPast .unfinishedSurrogatePair other
    | [] => failAt .endInString []
    | other => failPast .unfinishedSurrogatePair other
  else pure (Char.ofNat unit, rest)

/-- The character a one-letter escape stands for. -/
def shortEscape : Char → Option Char
  | '"' => some '"'
  | '\\' => some '\\'
  | '/' => some '/'
  | 'b' => some '\x08'
  | 'f' => some '\x0c'
  | 'n' => some '\n'
  | 'r' => some '\r'
  | 't' => some '\t'
  | _ => none

/-- Read the characters of a string after its opening quote, up to and including the closing
quote; `acc` holds the characters read so far, last first. -/
def readStringBody : Nat → List Char → List Char → Except Failure (String × List Char)
  | 0, _, cs => failAt .endInString cs
  | _ + 1, _, [] => failAt .endInString []
  | _ + 1, acc, '"' :: rest => pure (String.ofList acc.reverse, rest)
  | fuel + 1, acc, '\\' :: rest =>
    match rest with
    | [] => failAt .endInString []
    | e :: more =>
      match shortEscape e with
      | some c => readStringBody fuel (c :: acc) more
      | none =>
        if e == 'u' then do
          let (unit, after) ← readHex4 more
          let (c, after') ← readUnicodeEscape unit after
          readStringBody fuel (c :: acc) after'
        else failPast .invalidEscape (e :: more)
  | fuel + 1, acc, c :: rest =>
    if c.toNat < 0x20 then failAt .controlCharacter rest
    else readStringBody fuel (c :: acc) rest

/-- The largest significand kept while reading a number, `2^64 - 1`; digits that would pass it are
dropped and counted in the exponent instead. -/
def significandLimit : Nat := Nat.pow 2 64 - 1

/-- The largest exponent written in a number, `2^31 - 1`. -/
def exponentLimit : Nat := Nat.pow 2 31 - 1

/-- The value of a decimal digit character. -/
def digitOf (c : Char) : Nat := c.toNat - '0'.toNat

/-- An exponent kept within 32 bits, as sums and differences of exponents are. -/
def saturate (e : Int) : Int :=
  if e < -2147483648 then -2147483648 else if 2147483647 < e then 2147483647 else e

/-- The double nearest to `10^k`. -/
def powerOfTen (k : Nat) : Float := Float.ofScientific 1 false k

/-- `f × 10^e` computed by one multiplication or division by a power of ten, after dividing by
`10^308` as often as needed to bring a very negative exponent within the powers; `none` when a
multiplication overflows. Each division raises the exponent by 308, so `|e| / 308 + 1` steps are
enough fuel. -/
def scaleFuel : Nat → Float → Int → Option Float
  | 0, f, _ => some f
  | fuel + 1, f, e =>
    if e.natAbs ≤ 308 then
      if e ≥ 0 then
        let g := f * powerOfTen e.natAbs
        if g.isInf then none else some g
      else some (f / powerOfTen e.natAbs)
    else if f == 0 then some f
    else if e ≥ 0 then none
    else scaleFuel fuel (f / powerOfTen 308) (e + 308)

/-- The double of a significand and a decimal exponent, negated when `negative`: the significand
rounded to a double, then scaled by `scaleFuel`. This is not always the double nearest to the
exact value, and that is the reader's behaviour. -/
def ofParts (negative : Bool) (significand : Nat) (exponent : Int) : Option JsonNumber :=
  (scaleFuel (exponent.natAbs / 308 + 1) (Float.ofNat significand) exponent).map fun f =>
    .double (if negative then -f else f)

/-- The number an integer literal reads as: a 64-bit integer when it is one, otherwise a double
(`-0` included). -/
def integerNumber (negative : Bool) (n : Nat) : JsonNumber :=
  if negative then
    if n == 0 then .double (-0.0)
    else if n ≤ Nat.pow 2 63 then .neg n
    else .double (-Float.ofNat n)
  else .nat n

/-- Skip the digits at the front of a list. -/
def skipDigits : List Char → List Char
  | c :: rest => if c.isDigit then skipDigits rest else c :: rest
  | [] => []

/-- The number `significand × 10^exponent`, negated when `negative`, as `ofParts` reads it; a
number too large for a double is refused where it ends. -/
def scaledNumber (negative : Bool) (significand : Nat) (exponent : Int) (rest : List Char) :
    Except Failure (JsonNumber × List Char) :=
  match ofParts negative significand exponent with
  | some n => pure (n, rest)
  | none => failAt .numberOutOfRange rest

/-- The digits of an exponent after its sign, at least one: `exp` is the value so far. An
exponent past `2^31 - 1` makes a number with a non-zero significand and a positive exponent too
large, refused after the digit that passed the limit, and any other number zero. -/
def exponentDigits (negative : Bool) (significand : Nat) (start : Int) (positive : Bool)
    (exp : Nat) : List Char → Except Failure (JsonNumber × List Char)
  | c :: rest =>
    if c.isDigit then
      if exp * 10 + digitOf c > exponentLimit then
        if significand != 0 && positive then failAt .numberOutOfRange rest
        else pure (.double (if negative then -0.0 else 0.0), skipDigits rest)
      else exponentDigits negative significand start positive (exp * 10 + digitOf c) rest
    else
      scaledNumber negative significand (saturate (if positive then start + exp else start - exp))
        (c :: rest)
  | [] =>
    scaledNumber negative significand (saturate (if positive then start + exp else start - exp)) []

/-- An exponent after its `e`: an optional sign, then at least one digit. -/
def exponentPart (negative : Bool) (significand : Nat) (start : Int) (cs : List Char) :
    Except Failure (JsonNumber × List Char) :=
  let (positive, rest) :=
    match cs with
    | '+' :: r => (true, r)
    | '-' :: r => (false, r)
    | r => (true, r)
  match rest with
  | c :: more =>
    if c.isDigit then exponentDigits negative significand start positive (digitOf c) more
    else failPast .invalidNumber (c :: more)
  | [] => failAt .endInValue []

/-- What may follow the digits of a fraction or a long integer: an exponent, or the end of the
number. -/
def afterDigits (negative : Bool) (significand : Nat) (exponent : Int) :
    List Char → Except Failure (JsonNumber × List Char)
  | c :: rest =>
    if c == 'e' || c == 'E' then exponentPart negative significand exponent rest
    else scaledNumber negative significand exponent (c :: rest)
  | [] => scaledNumber negative significand exponent []

/-- The digits of a fraction, at least one: `count` of them have been added to the significand
so far. Once the significand is full, further digits are dropped. -/
def fractionDigits (negative : Bool) (significand : Nat) (before : Int) (count : Nat) :
    List Char → Except Failure (JsonNumber × List Char)
  | c :: rest =>
    if c.isDigit then
      if significand * 10 + digitOf c > significandLimit then
        afterDigits negative significand (before - count) (skipDigits rest)
      else fractionDigits negative (significand * 10 + digitOf c) before (count + 1) rest
    else if count == 0 then failPast .invalidNumber (c :: rest)
    else afterDigits negative significand (before - count) (c :: rest)
  | [] =>
    if count == 0 then failAt .endInValue []
    else scaledNumber negative significand (before - count) []

/-- The digits of an integer part too long for the significand: each one raises the exponent. -/
def longDigits (negative : Bool) (significand : Nat) (exponent : Nat) :
    List Char → Except Failure (JsonNumber × List Char)
  | c :: rest =>
    if c.isDigit then longDigits negative significand (exponent + 1) rest
    else if c == '.' then fractionDigits negative significand exponent 0 rest
    else afterDigits negative significand exponent (c :: rest)
  | [] => scaledNumber negative significand exponent []

/-- What follows the integer part of a number that fits the significand: a fraction, an exponent,
or nothing, in which case the number is an integer. -/
def afterInteger (negative : Bool) (significand : Nat) :
    List Char → Except Failure (JsonNumber × List Char)
  | '.' :: rest => fractionDigits negative significand 0 0 rest
  | c :: rest =>
    if c == 'e' || c == 'E' then exponentPart negative significand 0 rest
    else pure (integerNumber negative significand, c :: rest)
  | [] => pure (integerNumber negative significand, [])

/-- The digits of the integer part after its first, `significand` being their value so far. -/
def integerDigits (negative : Bool) (significand : Nat) :
    List Char → Except Failure (JsonNumber × List Char)
  | c :: rest =>
    if c.isDigit then
      if significand * 10 + digitOf c > significandLimit then
        longDigits negative significand 0 (c :: rest)
      else integerDigits negative (significand * 10 + digitOf c) rest
    else afterInteger negative significand (c :: rest)
  | [] => afterInteger negative significand []

/-- Read a number: an optional minus, an integer part without leading zeros, an optional fraction
and an optional exponent. -/
def readNumber (cs : List Char) : Except Failure (JsonNumber × List Char) :=
  let (negative, body) :=
    match cs with
    | '-' :: r => (true, r)
    | r => (false, r)
  match body with
  | '0' :: rest =>
    match rest with
    | c :: _ => if c.isDigit then failPast .invalidNumber rest else afterInteger negative 0 rest
    | [] => afterInteger negative 0 []
  | c :: rest =>
    if c.isDigit then integerDigits negative (digitOf c) rest
    else failPast .invalidNumber (c :: rest)
  | [] => failAt .endInValue []

/-- The letters that complete `null`, `true` or `false` after its first: the text must go on
with them. -/
def readLetters : List Char → List Char → Except Failure (List Char)
  | [], cs => pure cs
  | _ :: _, [] => failAt .endInValue []
  | w :: ws, c :: rest =>
    if c == w then readLetters ws rest else failPast .expectedIdent (c :: rest)

/-- The colon between a member's key and its value, after optional whitespace. -/
def readColon (cs : List Char) : Except Failure (List Char) :=
  match skipSpace cs with
  | ':' :: rest => pure rest
  | [] => failAt .endInObject []
  | c :: rest => failPast .expectedColon (c :: rest)

mutual

/-- Read a value after optional whitespace, with `depth` further levels of nesting allowed. -/
def readValue : Nat → Nat → List Char → Except Failure (Json × List Char)
  | 0, _, cs => failAt .endInValue cs
  | fuel + 1, depth, cs =>
    match skipSpace cs with
    | [] => failAt .endInValue []
    | 'n' :: rest => (Json.null, ·) <$> readLetters ['u', 'l', 'l'] rest
    | 't' :: rest => (Json.bool true, ·) <$> readLetters ['r', 'u', 'e'] rest
    | 'f' :: rest => (Json.bool false, ·) <$> readLetters ['a', 'l', 's', 'e'] rest
    | '"' :: rest => (fun (s, r) => (Json.string s, r)) <$> readStringBody fuel [] rest
    | '[' :: rest =>
      if depth == 0 then failPast .tooDeep ('[' :: rest)
      else (fun (xs, r) => (Json.array xs, r)) <$> readItems fuel (depth - 1) true [] rest
    | '{' :: rest =>
      if depth == 0 then failPast .tooDeep ('{' :: rest)
      else (fun (ms, r) => (Json.object ms, r)) <$> readMembers fuel (depth - 1) true [] rest
    | c :: rest =>
      if c == '-' || c.isDigit then (fun (n, r) => (Json.number n, r)) <$> readNumber (c :: rest)
      else failPast .expectedValue (c :: rest)

/-- Read the items of an array after its opening bracket, up to and including the closing
bracket; `first` tells whether no item has been read yet, and `acc` holds the items read so
far, last first. -/
def readItems : Nat → Nat → Bool → List Json → List Char →
    Except Failure (List Json × List Char)
  | 0, _, _, _, cs => failAt .endInList cs
  | fuel + 1, depth, first, acc, cs =>
    match skipSpace cs with
    | [] => failAt .endInList []
    | ']' :: rest => pure (acc.reverse, rest)
    | c :: rest =>
      if first then do
        let (x, r) ← readValue fuel depth (c :: rest)
        readItems fuel depth false (x :: acc) r
      else if c == ',' then
        match skipSpace rest with
        | [] => failAt .endInValue []
        | ']' :: more => failPast .trailingComma (']' :: more)
        | more => do
          let (x, r) ← readValue fuel depth more
          readItems fuel depth false (x :: acc) r
      else failPast .expectedCommaOrBracket (c :: rest)

/-- Read the members of an object after its opening brace, up to and including the closing
brace, into the map `acc`; `first` tells whether no member has been read yet. -/
def readMembers : Nat → Nat → Bool → Members → List Char →
    Except Failure (Members × List Char)
  | 0, _, _, _, cs => failAt .endInObject cs
  | fuel + 1, depth, first, acc, cs =>
    match skipSpace cs with
    | [] => failAt .endInObject []
    | '}' :: rest => pure (acc, rest)
    | c :: rest =>
      if first then do
        let ((key, x), r) ← readMember fuel depth (c :: rest)
        readMembers fuel depth false (Members.insert key x acc) r
      else if c == ',' then do
        let ((key, x), r) ← readMember fuel depth (skipSpace rest)
        readMembers fuel depth false (Members.insert key x acc) r
      else failPast .expectedCommaOrBrace (c :: rest)

/-- Read one member of an object, from the start of its key to the end of its value. -/
def readMember : Nat → Nat → List Char → Except Failure ((String × Json) × List Char)
  | 0, _, cs => failAt .endInObject cs
  | fuel + 1, depth, cs =>
    match cs with
    | '"' :: rest => do
      let (key, afterKey) ← readStringBody fuel [] rest
      let afterColon ← readColon afterKey
      let (x, r) ← readValue fuel depth afterColon
      pure ((key, x), r)
    | '}' :: rest => failPast .trailingComma ('}' :: rest)
    | [] => failAt .endInValue []
    | c :: rest => failPast .keyNotString (c :: rest)

end

/-- Read a JSON text: one value with optional whitespace around it. -/
def read (s : String) : Except Failure Json := do
  let cs := s.toList
  let (x, rest) ← readValue (2 * cs.length + 2) 127 cs
  match skipSpace rest with
  | [] => pure x
  | c :: more => failPast .trailingCharacters (c :: more)

/-- The JSON value of a text, if it is one.
Source: `serde_json::from_str`. -/
def parse (s : String) : Option Json := (read s).toOption

/-- Read a JSON text, or describe why and where it is refused.
Source: `serde_json::from_str`, with its error. -/
def readExplained (s : String) : Except String Json := (read s).mapError (·.describe s)

end ConceptQuery.Json
