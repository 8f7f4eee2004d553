import ConceptQuery.Decimal.Shortest

/-!
# Laying out a shortest decimal

Once the digits of a value are chosen, a format still decides where the point goes. A
`FloatStyle` records those decisions: which decimal exponents are written positionally, whether
an integral value keeps a `.0`, how ties between candidates go, and the texts of NaN and the
infinities, and whether a non-negative exponent of scientific notation is marked `+`
(`1e+16`) or bare (`1e16`). An exponent is never padded.

The four styles this library writes are values below, next to one another so that their
differences are plain: `plain` for weights inside renderings and messages, `inspect` for
debugging descriptions, and `jsonDouble` and `jsonSingle` for JSON documents.
-/

namespace ConceptQuery.Decimal

/-- The layout decisions of one floating-point text format. -/
structure FloatStyle where
  /-- Whether a value whose leading digit has decimal exponent `e` is written positionally. -/
  positional : Int → Bool
  /-- Whether integral values keep a trailing `.0`. -/
  pointZero : Bool
  /-- How an exact tie between two shortest candidates goes. -/
  tie : Tie
  /-- Whether a non-negative exponent of scientific notation is written with a `+`. -/
  plusExponent : Bool
  /-- The text of NaN. -/
  nan : String
  /-- The text of positive infinity. -/
  infinity : String
  /-- The text of negative infinity. -/
  negativeInfinity : String

namespace FloatStyle

/-- Weights in renderings and messages: always positional, no `.0`, ties go up. -/
def plain : FloatStyle where
  positional := fun _ => true
  pointZero := false
  tie := .up
  plusExponent := false
  nan := "NaN"
  infinity := "inf"
  negativeInfinity := "-inf"

/-- Debugging descriptions: positional from `1e-4` up to below `1e16`, integral values keep
`.0`, ties go up, exponents are bare. -/
def inspect : FloatStyle where
  positional := fun e => decide (-4 ≤ e ∧ e < 16)
  pointZero := true
  tie := .up
  plusExponent := false
  nan := "NaN"
  infinity := "inf"
  negativeInfinity := "-inf"

/-- Doubles in JSON documents: positional from `1e-5` up to below `1e16`, integral values keep
`.0`, ties go to even, a non-negative exponent is marked `+`. Non-finite values have no JSON
form and are written `null`. -/
def jsonDouble : FloatStyle where
  positional := fun e => decide (-5 ≤ e ∧ e < 16)
  pointZero := true
  tie := .even
  plusExponent := true
  nan := "null"
  infinity := "null"
  negativeInfinity := "null"

/-- Singles in JSON documents: positional from `1e-6` up to below `1e13`, integral values keep
`.0`, ties go to even, a non-negative exponent is marked `+`. Non-finite values are written
`null`. -/
def jsonSingle : FloatStyle where
  positional := fun e => decide (-6 ≤ e ∧ e < 13)
  pointZero := true
  tie := .even
  plusExponent := true
  nan := "null"
  infinity := "null"
  negativeInfinity := "null"

end FloatStyle

/-- `n` zeros. -/
def zeros (n : Nat) : String := String.ofList (List.replicate n '0')

/-- The text of a non-negative decimal whose digits have no trailing zeros. -/
def Dec.layout (style : FloatStyle) (d : Dec) : String :=
  let ds := Nat.toDigits 10 d.digits
  let n := ds.length
  -- the decimal exponent of the leading digit
  let lead : Int := n + d.exp - 1
  if d.digits == 0 then
    if style.pointZero then "0.0" else "0"
  else if style.positional lead then
    if 0 ≤ d.exp then
      String.ofList ds ++ zeros d.exp.toNat ++ (if style.pointZero then ".0" else "")
    else if 0 ≤ lead then
      let k := (lead + 1).toNat
      String.ofList (ds.take k) ++ "." ++ String.ofList (ds.drop k)
    else
      "0." ++ zeros (-lead - 1).toNat ++ String.ofList ds
  else
    let mantissa :=
      match ds with
      | [] => "0"
      | [c] => String.singleton c
      | c :: rest => String.singleton c ++ "." ++ String.ofList rest
    let sign := if lead < 0 then "-" else if style.plusExponent then "+" else ""
    mantissa ++ "e" ++ sign ++ toString lead.natAbs

/-- The text of the value with the given parts. -/
def FloatParts.render (style : FloatStyle) : FloatParts → String
  | .nan => style.nan
  | .infinite negative => if negative then style.negativeInfinity else style.infinity
  | .finite negative x =>
    let d := if x.m == 0 then ⟨0, 0⟩ else x.shortest style.tie
    (if negative then "-" else "") ++ d.layout style

/-- The text of a single-precision value.
Source: `f32::fmt`. -/
def renderFloat32 (style : FloatStyle) (x : Float32) : String :=
  (FloatParts.ofFloat32 x).render style

/-- The text of a double-precision value.
Source: `f64::fmt`. -/
def renderFloat (style : FloatStyle) (x : Float) : String :=
  (FloatParts.ofFloat x).render style

end ConceptQuery.Decimal
