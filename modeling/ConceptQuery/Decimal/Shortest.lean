import ConceptQuery.Decimal.Binary

/-!
# Shortest decimals

A binary value stands for the interval of reals that round to it: from halfway to the neighbour
below to halfway to the neighbour above, the ends included exactly when the significand is even.
A decimal is *correct* when it lies in that interval and *shortest* when no decimal with fewer
significant digits does.

`Binary.shortest` searches the decimal grids `10^j` from the coarsest down. On each grid the two
neighbours of the value are tested with exact natural arithmetic; the first grid with a hit wins,
and of two hits the nearer one. An exact tie between two equally near hits is settled by a
`Tie` rule, which is the only choice a format has to make here.
-/

namespace ConceptQuery.Decimal

/-- A decimal `digits * 10^exp`. -/
structure Dec where
  /-- The digits, as a number. -/
  digits : Nat
  /-- The power of ten they are scaled by. -/
  exp : Int
deriving Repr, DecidableEq

/-- How a tie between two equally near shortest candidates is settled. -/
inductive Tie where
  /-- Take the larger candidate. -/
  | up
  /-- Take the candidate whose last digit is even. -/
  | even
deriving Repr, DecidableEq

/-- The number of decimal digits of `n` (one for zero). -/
def decimalLength (n : Nat) : Nat := (Nat.toDigits 10 n).length

namespace Binary

/-- The value as an exact decimal `M / 10^s`, with the gap `G / 10^s` to the value above:
`(M, s, G)`. -/
def exact (x : Binary) : Nat × Nat × Nat :=
  if 0 ≤ x.q then (x.m * Nat.pow 2 x.q.toNat, 0, Nat.pow 2 x.q.toNat)
  else (x.m * Nat.pow 5 (-x.q).toNat, (-x.q).toNat, Nat.pow 5 (-x.q).toNat)

/-- Whether `c / 10^s` (in the unit of `exact`) lies among the reals that round to the value,
rounding to nearest with ties to even. -/
def readsBack (x : Binary) (c : Nat) : Bool :=
  let (M, _, G) := x.exact
  let lo := if x.narrowBelow then 4 * M - G else 4 * M - 2 * G
  let hi := 4 * M + 2 * G
  let incl := x.m % 2 == 0
  (decide (lo < 4 * c) || (incl && lo == 4 * c)) && (decide (4 * c < hi) || (incl && 4 * c == hi))

/-- The candidate on the grid of unit `10^e` (in the unit of `exact`), if one of the value's two
neighbours on that grid reads back. -/
def pick (x : Binary) (tie : Tie) (e : Nat) : Option Nat :=
  let M := x.exact.1
  let u := Nat.pow 10 e
  let lower := M / u * u
  let upper := lower + u
  match x.readsBack lower, x.readsBack upper with
  | true, true =>
    match compare (2 * M) (lower + upper) with
    | .lt => some lower
    | .gt => some upper
    | .eq =>
      match tie with
      | .up => some upper
      | .even => if (lower / u) % 2 == 0 then some lower else some upper
  | true, false => some lower
  | false, true => some upper
  | false, false => none

/-- Move trailing zeros of the digits into the exponent, at most `fuel` of them. -/
def stripZeros : Nat → Dec → Dec
  | 0, d => d
  | fuel + 1, d =>
    if d.digits != 0 && d.digits % 10 == 0 then stripZeros fuel ⟨d.digits / 10, d.exp + 1⟩ else d

/-- The shortest decimal that reads back as the value, nearest of those, with no trailing zeros.
The grid of the exact value itself always reads back, so the search cannot come up empty; the
exact value stands in that case all the same. -/
def shortest (x : Binary) (tie : Tie) : Dec :=
  let (M, s, _) := x.exact
  let n := decimalLength M
  let found := (List.range n).findSome? fun i =>
    (x.pick tie (n - 1 - i)).map fun c => (c, n - 1 - i)
  match found with
  | some (c, e) => stripZeros (n + 1) ⟨c / Nat.pow 10 e, (e : Int) - s⟩
  | none => stripZeros (n + 1) ⟨M, -(s : Int)⟩

end Binary

-- 0.1 as a single: 13421773 * 2^-27.
example : (Binary.shortest ⟨13421773, -27, false⟩ .up) = ⟨1, -1⟩ := by decide +kernel
-- 1.0 as a single.
example : (Binary.shortest ⟨2 ^ 23, -23, true⟩ .up) = ⟨1, 0⟩ := by decide +kernel
-- The least positive single, about 1.4e-45.
example : (Binary.shortest ⟨1, -149, false⟩ .up) = ⟨1, -45⟩ := by decide +kernel

end ConceptQuery.Decimal
