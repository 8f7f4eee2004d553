import ConceptQuery.Text.RangeTable
import ConceptQuery.Unicode.RangeText
import ConceptQuery.Unicode.CaseFold

/-!
# Sets of characters

A `CharSet` is a set of Unicode scalar values, kept as closed ranges of code points that are
sorted, disjoint and not adjacent, so that each set has exactly one form. Surrogates are never
members. `CharSet.ofRanges` brings any list of ranges into that form; union, intersection,
difference, symmetric difference and complement (with respect to all scalar values) keep it.

**Case.** `CharSet.caseFold` adds to a set every character that is the same as a member up to
simple case folding (`k`, `K` and the Kelvin sign, for instance); `CharSet.asciiCaseFold` does the
same for ASCII letters only.
-/

namespace ConceptQuery.Regex

/-- The largest code point. -/
def maxCodePoint : Nat := 0x10FFFF

/-- A set of scalar values as sorted, disjoint, non-adjacent closed ranges of code points. -/
structure CharSet where
  /-- The code point ranges, sorted and apart. -/
  ranges : List (Nat × Nat)
deriving Repr, DecidableEq, Inhabited

namespace CharSet

/-- Merge ranges sorted by their first code point into `acc` (the merged ranges so far, last
first), joining those that overlap or touch. -/
def mergeInto (acc : List (Nat × Nat)) : List (Nat × Nat) → List (Nat × Nat)
  | [] => acc.reverse
  | (c, d) :: rest =>
    match acc with
    | (a, b) :: done =>
      if c ≤ b + 1 then mergeInto ((a, max b d) :: done) rest else mergeInto ((c, d) :: acc) rest
    | [] => mergeInto [(c, d)] rest

/-- Cut the surrogates `D800..DFFF` out of ranges. -/
def withoutSurrogates : List (Nat × Nat) → List (Nat × Nat)
  | [] => []
  | (a, b) :: rest =>
    (if a < 0xD800 then [(a, min b 0xD7FF)] else []) ++
      (if b > 0xDFFF then [(max a 0xE000, b)] else []) ++ withoutSurrogates rest

/-- The set of the scalar values in the given ranges, taken in any order; a range with its ends
the wrong way round holds nothing. -/
def ofRanges (rs : List (Nat × Nat)) : CharSet :=
  let valid := (rs.filter fun r => r.1 ≤ r.2 && r.1 ≤ maxCodePoint).map
    fun r => (r.1, min r.2 maxCodePoint)
  ⟨withoutSurrogates (mergeInto [] (valid.mergeSort fun x y => x.1 ≤ y.1))⟩

/-- The empty set. -/
def empty : CharSet := ⟨[]⟩

/-- All scalar values. -/
def full : CharSet := ofRanges [(0, maxCodePoint)]

/-- The set of one character. -/
def single (c : Char) : CharSet := ofRanges [(c.toNat, c.toNat)]

/-- The characters from `lo` to `hi`. -/
def range (lo hi : Nat) : CharSet := ofRanges [(lo, hi)]

/-- The characters of range text. -/
def ofRangeText (text : String) : CharSet := ofRanges (Unicode.decodeRanges text)

/-- The characters in either set. -/
def union (s t : CharSet) : CharSet := ofRanges (s.ranges ++ t.ranges)

/-- The code points from `start` on that no range covers, given sorted disjoint ranges. -/
def gapsFrom (start : Nat) : List (Nat × Nat) → List (Nat × Nat)
  | [] => if start ≤ maxCodePoint then [(start, maxCodePoint)] else []
  | (a, b) :: rest => (if start < a then [(start, a - 1)] else []) ++ gapsFrom (b + 1) rest

/-- The scalar values not in a set. -/
def complement (s : CharSet) : CharSet := ⟨withoutSurrogates (gapsFrom 0 s.ranges)⟩

/-- The characters in both sets. -/
def inter (s t : CharSet) : CharSet := complement (union (complement s) (complement t))

/-- The characters of `s` not in `t`. -/
def diff (s t : CharSet) : CharSet := inter s (complement t)

/-- The characters in exactly one of the sets. -/
def symmDiff (s t : CharSet) : CharSet := diff (union s t) (inter s t)

/-- Whether the set has no members. -/
def isEmpty (s : CharSet) : Bool := s.ranges.isEmpty

/-- Whether every member is an ASCII character. -/
def isAscii (s : CharSet) : Bool := s.ranges.all (·.2 ≤ 0x7F)

/-- The ranges as an array, for lookups. -/
def toTable (s : CharSet) : Array (Nat × Nat) := s.ranges.toArray

/-- Whether a character is a member. -/
def contains (s : CharSet) (c : Char) : Bool := Text.RangeTable.covers s.toTable c.toNat

/-- Each character that has others the same up to simple case folding, with those others,
sorted by character. -/
def foldTable : Array (Nat × List Nat) :=
  let entries := (Unicode.decodeClasses Unicode.caseFoldText).flatMap fun cls =>
    cls.map fun c => (c, cls.erase c)
  (entries.mergeSort fun a b => a.1 ≤ b.1).toArray

/-- The set with every character that is the same as a member up to simple case folding. -/
def caseFold (s : CharSet) : CharSet :=
  let table := s.toTable
  let extra := foldTable.toList.flatMap fun (c, others) =>
    if Text.RangeTable.covers table c then others.map fun o => (o, o) else []
  ofRanges (s.ranges ++ extra)

/-- The set with the other case of each ASCII letter among its members. -/
def asciiCaseFold (s : CharSet) : CharSet :=
  let shift (lo hi : Nat) (up : Bool) : List (Nat × Nat) :=
    (inter s (range lo hi)).ranges.map fun (a, b) =>
      if up then (a - 32, b - 32) else (a + 32, b + 32)
  ofRanges (s.ranges ++ shift 0x61 0x7A true ++ shift 0x41 0x5A false)

example : mergeInto [] [(1, 3), (4, 4), (5, 9), (12, 13)] = [(1, 9), (12, 13)] := by decide
example : (complement ⟨[(0, 0xD000)]⟩).ranges = [(0xD001, 0xD7FF), (0xE000, maxCodePoint)] := by
  decide +kernel

end CharSet

end ConceptQuery.Regex
