/-!
# Decimal literals

Weights are written by people as decimal literals: `2`, `+2`, `.5`, `5.`, `1e3`, `-0`, `inf`,
`Infinity`, `NaN`. `Literal.parse` accepts exactly this grammar:

    literal ::= sign? ( "inf" | "infinity" | "nan" | number )      -- words in any case
    number  ::= ( digits | digits "." digits? | "." digits ) exponent?
    exponent ::= ("e" | "E") sign? digits

and reports an empty text apart from any other malformed one. A literal is then rounded to the
nearest single or double, ties to even, the way core's `ofScientific` rounds; magnitudes far
outside the range of the format go to infinity or zero before any arithmetic is done.
-/

namespace ConceptQuery.Decimal

/-- A decimal literal as read. -/
inductive Literal where
  /-- Not a number. -/
  | nan
  /-- An infinity of the given sign. -/
  | infinity (negative : Bool)
  /-- `digits * 10^exp`, with its sign. -/
  | number (negative : Bool) (digits : Nat) (exp : Int)
deriving Repr, DecidableEq

/-- Why a text is no decimal literal. -/
inductive LiteralError where
  /-- The text is empty. -/
  | empty
  /-- The text is not empty and not a literal. -/
  | invalid
deriving Repr, DecidableEq

/-- The wording of a literal error. -/
def LiteralError.message : LiteralError → String
  | .empty => "cannot parse float from empty string"
  | .invalid => "invalid float literal"

/-- The value of a list of decimal digit characters. -/
def digitsValue (cs : List Char) : Nat :=
  cs.foldl (fun acc c => 10 * acc + (c.toNat - '0'.toNat)) 0

/-- Split off the longest prefix of decimal digits. -/
def spanDigits (cs : List Char) : List Char × List Char :=
  (cs.takeWhile Char.isDigit, cs.dropWhile Char.isDigit)

/-- Read the exponent part: nothing, or `e`/`E`, an optional sign and at least one digit, and
nothing after it. -/
def readExponent : List Char → Option Int
  | [] => some 0
  | c :: rest =>
    if c == 'e' || c == 'E' then
      let (negative, body) :=
        match rest with
        | '+' :: r => (false, r)
        | '-' :: r => (true, r)
        | r => (false, r)
      let (ds, after) := spanDigits body
      if ds.isEmpty || !after.isEmpty then none
      else
        let v : Int := digitsValue ds
        some (if negative then -v else v)
    else none

/-- Read an unsigned number: integral digits, an optional point with fraction digits, and an
optional exponent. At least one digit must stand on either side of the point. -/
def readUnsigned (cs : List Char) : Option (Nat × Int) :=
  let (whole, rest) := spanDigits cs
  let (fraction, rest) :=
    match rest with
    | '.' :: r => spanDigits r
    | r => ([], r)
  if whole.isEmpty && fraction.isEmpty then none
  else
    (readExponent rest).map fun e =>
      (digitsValue (whole ++ fraction), e - fraction.length)

/-- Parse a decimal literal.
Source: `str::parse`, for `f32`. -/
def Literal.parse (s : String) : Except LiteralError Literal :=
  let cs := s.toList
  if cs.isEmpty then .error .empty
  else
    let (negative, body) :=
      match cs with
      | '+' :: r => (false, r)
      | '-' :: r => (true, r)
      | r => (false, r)
    let word := String.ofList (body.map Char.toLower)
    if word == "inf" || word == "infinity" then .ok (.infinity negative)
    else if word == "nan" then .ok .nan
    else
      match readUnsigned body with
      | some (d, e) => .ok (.number negative d e)
      | none => .error .invalid

/-- The number of decimal digits of a positive natural number. -/
def digitCount (n : Nat) : Nat := (Nat.toDigits 10 n).length

/-- Where a positive `digits * 10^exp` stands against a format's range: `some true` when it is
certainly too large (it rounds to infinity), `some false` when it certainly rounds to zero,
`none` when it must be computed. `maxLead` is the largest decimal exponent of a finite value,
`minLead` an exponent below which everything rounds to zero. -/
def outOfRange (digits : Nat) (exp : Int) (maxLead minLead : Int) : Option Bool :=
  let lead := (digitCount digits : Int) + exp - 1
  if maxLead < lead then some true
  else if lead < minLead then some false
  else none

/-- The nearest single to a literal.
Source: `str::parse`, for `f32`. -/
def Literal.toFloat32 : Literal → Float32
  | .nan => (0 : Float32) / 0
  | .infinity negative => if negative then -((1 : Float32) / 0) else (1 : Float32) / 0
  | .number negative digits exp =>
    let magnitude : Float32 :=
      if digits == 0 then 0
      else
        match outOfRange digits exp 38 (-47) with
        | some true => (1 : Float32) / 0
        | some false => 0
        | none => Float32.ofScientific digits (decide (exp < 0)) exp.natAbs
    if negative then -magnitude else magnitude

/-- The nearest double to a literal. -/
def Literal.toFloat : Literal → Float
  | .nan => (0 : Float) / 0
  | .infinity negative => if negative then -((1 : Float) / 0) else (1 : Float) / 0
  | .number negative digits exp =>
    let magnitude : Float :=
      if digits == 0 then 0
      else
        match outOfRange digits exp 308 (-325) with
        | some true => (1 : Float) / 0
        | some false => 0
        | none => Float.ofScientific digits (decide (exp < 0)) exp.natAbs
    if negative then -magnitude else magnitude

end ConceptQuery.Decimal
