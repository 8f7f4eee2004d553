/-!
# Binary floating-point values as exact numbers

Weights in this library are single-precision floats, and a few of them are shown widened to
double precision. Printing one starts by taking its bits apart: a sign, and either a NaN, an
infinity or a finite value `m * 2^q`.

**The narrow gap.** Below a power of two the neighbour underneath is half as far away as the
neighbour above. `Binary.narrowBelow` records that, because the interval of reals that round to
the value is lopsided there, and the choice of shortest digits depends on it.
-/

namespace ConceptQuery.Decimal

/-- A finite non-negative binary value `m * 2^q`. -/
structure Binary where
  /-- The integral significand; zero only for the value zero. -/
  m : Nat
  /-- The binary exponent. -/
  q : Int
  /-- The gap to the value below is half the gap to the value above. -/
  narrowBelow : Bool
deriving Repr, DecidableEq

/-- What the bits of a floating-point value stand for. -/
inductive FloatParts where
  /-- Not a number; its sign is never shown. -/
  | nan
  /-- An infinity of the given sign. -/
  | infinite (negative : Bool)
  /-- A finite value, zero included, with its sign. -/
  | finite (negative : Bool) (x : Binary)
deriving Repr, DecidableEq

/-- A binary interchange format: the width of the stored significand and of the exponent. -/
structure BinaryFormat where
  /-- Bits of the stored significand (the leading one is implicit). -/
  fractionBits : Nat
  /-- Bits of the biased exponent. -/
  exponentBits : Nat
deriving Repr, DecidableEq

namespace BinaryFormat

/-- Single precision: 23 stored significand bits, 8 exponent bits. -/
def single : BinaryFormat := ⟨23, 8⟩

/-- Double precision: 52 stored significand bits, 11 exponent bits. -/
def double : BinaryFormat := ⟨52, 11⟩

/-- The exponent bias of the format. -/
def bias (f : BinaryFormat) : Nat := Nat.pow 2 (f.exponentBits - 1) - 1

/-- Split raw bits into sign, exponent field and fraction field, and read them. A zero exponent
field is a subnormal (or zero) with the least exponent; an all-ones field is an infinity or a
NaN; anything else has the implicit leading one. -/
def decode (f : BinaryFormat) (bits : Nat) : FloatParts :=
  let fraction := bits % Nat.pow 2 f.fractionBits
  let field := (bits / Nat.pow 2 f.fractionBits) % Nat.pow 2 f.exponentBits
  let negative := (bits / Nat.pow 2 (f.fractionBits + f.exponentBits)) % 2 == 1
  let least : Int := 1 - (f.bias : Int) - f.fractionBits
  if field == Nat.pow 2 f.exponentBits - 1 then
    if fraction == 0 then .infinite negative else .nan
  else if field == 0 then
    .finite negative ⟨fraction, least, false⟩
  else
    .finite negative
      ⟨Nat.pow 2 f.fractionBits + fraction, (field : Int) - 1 + least, fraction == 0 && field > 1⟩

end BinaryFormat

/-- The parts of a single-precision value. -/
def FloatParts.ofFloat32 (x : Float32) : FloatParts :=
  BinaryFormat.single.decode x.toBits.toNat

/-- The parts of a double-precision value. -/
def FloatParts.ofFloat (x : Float) : FloatParts :=
  BinaryFormat.double.decode x.toBits.toNat

example : BinaryFormat.single.decode 0x3F800000 = .finite false ⟨2 ^ 23, -23, true⟩ := by decide
example : BinaryFormat.single.decode 0x00000001 = .finite false ⟨1, -149, false⟩ := by decide
example : BinaryFormat.single.decode 0xFF800000 = .infinite true := by decide
example : BinaryFormat.double.decode 0x3FF0000000000000 = .finite false ⟨2 ^ 52, -52, true⟩ := by
  decide

end ConceptQuery.Decimal
