/-!
# Range tables

A class of characters from the Unicode Character Database is stored as an array of sorted,
disjoint closed ranges `(first, last)` of code points. `RangeTable.covers` answers membership by
halving the array, so a lookup takes a logarithmic number of steps.
-/

namespace ConceptQuery.Text

namespace RangeTable

/-- Whether `c` lies in one of the ranges of `t` with index in `[lo, hi)`. The ranges must be
sorted and disjoint; then the range that could hold `c` is found by halving. -/
def coversBetween (t : Array (Nat × Nat)) (c : Nat) (lo hi : Nat) : Bool :=
  if h : lo < hi then
    let mid := (lo + hi) / 2
    have hmid : mid < hi := by omega
    have hlo : lo ≤ mid := by omega
    match t[mid]? with
    | none => false
    | some (first, last) =>
      if c < first then coversBetween t c lo mid
      else if last < c then coversBetween t c (mid + 1) hi
      else true
  else false
termination_by hi - lo

/-- Whether `c` lies in one of the sorted, disjoint ranges of `t`. -/
def covers (t : Array (Nat × Nat)) (c : Nat) : Bool := coversBetween t c 0 t.size

end RangeTable

example : RangeTable.covers #[(1, 3), (7, 7), (10, 20)] 7 = true := by decide +kernel
example : RangeTable.covers #[(1, 3), (7, 7), (10, 20)] 8 = false := by decide +kernel

end ConceptQuery.Text
