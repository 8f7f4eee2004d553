import ConceptQuery.Analysis.Token

/-!
# Positioned terms

A term is one token occurrence reduced to what a span tree needs: its text, its byte range
`[start, stop)` and its absolute position. Terms are ordered by *span*: by position, then by start
ascending, then by stop *descending*, so that among terms starting at the same place the longest
comes first and is seen before the terms it contains. Two terms with the same span are alternate
writings of one concept.

`Term.collect` turns a token stream into terms: the position is the running sum of the increments
(each token's own included), and stopped tokens are skipped while still moving the counter.
-/

namespace ConceptQuery

/-- A term with its byte range and absolute position.
Source: `PositionedTerm`. -/
structure Term where
  /-- The term's text. -/
  text : String
  /-- The byte offset where it starts in the analyzed text. -/
  start : Nat
  /-- The byte offset after its end. -/
  stop : Nat
  /-- Its position: the running sum of the increments up to its token. -/
  position : Nat
deriving Repr, DecidableEq

namespace Term

/-- The span order: position, then start ascending, then stop descending.
Source: `PositionedTerm::cmp_span`. -/
def spanCmp (a b : Term) : Ordering :=
  (compare a.position b.position).then ((compare a.start b.start).then (compare b.stop a.stop))

/-- Whether two terms have the same span.
Source: `PositionedTerm::same_span`. -/
def sameSpan (a b : Term) : Bool := a.spanCmp b == .eq

/-- Whether `a` contains `b`: same position and `b`'s range inside `a`'s.
Source: `PositionedTerm::contains`. -/
def contains (a b : Term) : Bool :=
  a.position == b.position && a.start ≤ b.start && b.stop ≤ a.stop

/-- Whether the ranges of two terms at one position overlap without either containing the
other.
Source: `PositionedTerm::partially_overlaps`. -/
def partiallyOverlaps (a b : Term) : Bool :=
  a.position == b.position && a.start < b.stop && b.start < a.stop && !a.contains b &&
    !b.contains a

/-- The total order of terms: span order, then the texts in code point order.
Source: `PositionedTerm::cmp`. -/
def cmp (a b : Term) : Ordering := (a.spanCmp b).then (compare a.text b.text)

/-- `"TEXT":[POSITION,START:STOP]`, the text not escaped.
Source: `PositionedTerm::fmt`. -/
def render (t : Term) : String :=
  "\"" ++ t.text ++ "\":[" ++ toString t.position ++ "," ++ toString t.start ++ ":" ++
    toString t.stop ++ "]"

/-- The terms of a token stream whose counter stands at `position` before it. -/
def collectFrom (position : Nat) : List Token → List Term
  | [] => []
  | t :: rest =>
    let p := position + t.increment
    if t.stopped then collectFrom p rest
    else ⟨t.text, t.start, t.stop, p⟩ :: collectFrom p rest

/-- The terms of a token stream: positions are running sums of the increments, stopped tokens
are skipped.
Source: `collect_terms`. -/
def collect (tokens : List Token) : List Term := collectFrom 0 tokens

/-- Terms stably sorted by span.
Source: the sort in `SpanNode::build`. -/
def sortBySpan (terms : List Term) : List Term :=
  terms.mergeSort fun a b => a.spanCmp b != .gt

end Term

end ConceptQuery
