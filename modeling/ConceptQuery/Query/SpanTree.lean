import ConceptQuery.Query.Term
import ConceptQuery.Log

/-!
# Span trees

A span tree groups the terms of an analyzed text into *concepts*. A concept is one span: the
first term seen for it, the other texts seen for the same span (its alternate writings, in the
order they came), and the concepts whose spans it contains, in span order. The root has no span;
its children are the top-level concepts.

**Insertion.** A term goes to the children of a node, which are kept strictly sorted by span. If a
child has the term's span, the term's text becomes an alternate writing of that child. Otherwise
the term belongs between two children; if the child before that place contains the term, the term
goes below that child, recursively; else it becomes a new leaf in that place. `SpanTree.build`
sorts the terms stably by span first, so that a containing span always comes before the spans it
contains and the input order only decides the order of alternate writings.

Insertion reports what it did as log lines (`SpanTree.insertNotes`): a new concept, an alternate
writing, or a term that partially overlaps the child before it and is placed beside it.
-/

namespace ConceptQuery

/-- A concept of a span tree.
Source: `SpanNode`, below the root. -/
structure Concept where
  /-- The first term seen with this span. -/
  term : Term
  /-- The other texts seen with this span, in order. -/
  alternates : List String
  /-- The concepts whose spans this one contains, strictly sorted by span. -/
  children : List Concept
deriving Repr

/-- A span tree: the root's children, strictly sorted by span.
Source: `SpanNode`, at the root. -/
structure SpanTree where
  /-- The concepts below the root, strictly sorted by span. -/
  concepts : List Concept
deriving Repr

/-- Where an insertion put a term, with the depth of the node it reached (1 for a child of the
node the insertion started from).
Source: `Placement`. -/
inductive Placement where
  /-- The term became a new concept. -/
  | newConcept (depth : Nat)
  /-- The term's text became an alternate writing of an existing concept. -/
  | alternate (depth : Nat)
deriving Repr, DecidableEq

/-- The same placement seen from one level higher.
Source: `Placement::nested`. -/
def Placement.nested : Placement → Placement
  | .newConcept d => .newConcept (d + 1)
  | .alternate d => .alternate (d + 1)

namespace Concept

/-- A concept with a single term and nothing below it.
Source: `SpanNode::leaf`. -/
def leaf (t : Term) : Concept := ⟨t, [], []⟩

/-- The writings of a concept: its term's text, then its alternates.
Source: `SpanNode::writings`. -/
def writings (c : Concept) : List String := c.term.text :: c.alternates

/-- Whether a term that sorts after a child stops before the next children: the list of the
following children is empty or starts after the term. -/
def stopsBefore (rest : List Concept) (t : Term) : Bool :=
  match rest with
  | [] => true
  | d :: _ => d.term.spanCmp t == .gt

mutual

/-- Insert a term below a concept.
Source: `SpanNode::add`. -/
def insert : Concept → Term → Concept × Placement
  | ⟨term, alts, children⟩, t =>
    let (cs, p) := insertAmong children t
    (⟨term, alts, cs⟩, p.nested)

/-- Insert a term among sorted sibling concepts.
Source: the children loop of `SpanNode::add`. -/
def insertAmong : List Concept → Term → List Concept × Placement
  | [], t => ([leaf t], .newConcept 1)
  | c :: rest, t =>
    match c.term.spanCmp t with
    | .eq => ({ c with alternates := c.alternates ++ [t.text] } :: rest, .alternate 1)
    | .gt => (leaf t :: c :: rest, .newConcept 1)
    | .lt =>
      if stopsBefore rest t && c.term.contains t then
        let (c', p) := c.insert t
        (c' :: rest, p)
      else
        let (rest', p) := insertAmong rest t
        (c :: rest', p)

end

mutual

/-- `<"ALT"|...TERM>[CHILD, ...]`: the alternates, each followed by a bar, then the term.
Source: `SpanNode::fmt`. -/
def render : Concept → String
  | ⟨term, alts, children⟩ =>
    "<" ++ String.join (alts.map fun a => "\"" ++ a ++ "\"|") ++ term.render ++ ">[" ++
      renderAll children ++ "]"

/-- Concepts rendered and separated by `", "`. -/
def renderAll : List Concept → String
  | [] => ""
  | [c] => render c
  | c :: rest => render c ++ ", " ++ renderAll rest

end

mutual

/-- The number of levels below a concept: zero for a leaf.
Source: `SpanNode::depth`. -/
def depth : Concept → Nat
  | ⟨_, _, children⟩ => depthAll children

/-- One more than the greatest depth among concepts, zero for none. -/
def depthAll : List Concept → Nat
  | [] => 0
  | c :: rest => max (depth c + 1) (depthAll rest)

end

mutual

/-- The number of concepts below a concept.
Source: `SpanNode::concept_count`. -/
def count : Concept → Nat
  | ⟨_, _, children⟩ => countAll children

/-- The number of concepts in and below a list of concepts. -/
def countAll : List Concept → Nat
  | [] => 0
  | c :: rest => count c + 1 + countAll rest

end

/-- The log line of a new concept. -/
def newConceptNote (t : Term) : LogLine := ⟨.trace, t.render ++ " starts a new concept"⟩

/-- The warning for a term placed beside a concept it partially overlaps. -/
def overlapNote (previous : Option Concept) (t : Term) : List LogLine :=
  match previous with
  | some p =>
    if p.term.partiallyOverlaps t then
      [⟨.warn, t.render ++ " partially overlaps " ++ p.term.render ++ "; inserting it as a sibling"⟩]
    else []
  | none => []

mutual

/-- What inserting a term below a concept reports.
Source: the log lines of `SpanNode::add`. -/
def insertNotes : Concept → Term → List LogLine
  | ⟨_, _, children⟩, t => insertAmongNotes none children t

/-- What inserting a term among sorted siblings reports, `previous` being the sibling before
them. -/
def insertAmongNotes (previous : Option Concept) : List Concept → Term → List LogLine
  | [], t => overlapNote previous t ++ [newConceptNote t]
  | c :: rest, t =>
    match c.term.spanCmp t with
    | .eq => [⟨.trace, t.text ++ " is an alternate writing of " ++ c.render⟩]
    | .gt => overlapNote previous t ++ [newConceptNote t]
    | .lt =>
      if stopsBefore rest t && c.term.contains t then insertNotes c t
      else insertAmongNotes (some c) rest t

end

end Concept

namespace SpanTree

/-- The tree without concepts.
Source: `SpanNode::root`. -/
def empty : SpanTree := ⟨[]⟩

/-- Insert a term into the tree.
Source: `SpanNode::add`. -/
def insert (tree : SpanTree) (t : Term) : SpanTree × Placement :=
  let (cs, p) := Concept.insertAmong tree.concepts t
  (⟨cs⟩, p)

/-- What inserting a term into the tree reports. -/
def insertNotes (tree : SpanTree) (t : Term) : List LogLine :=
  Concept.insertAmongNotes none tree.concepts t

/-- The tree of terms inserted in the given order. -/
def insertAll (tree : SpanTree) (terms : List Term) : SpanTree :=
  terms.foldl (fun acc t => (acc.insert t).1) tree

/-- The number of levels of concepts: zero for an empty tree.
Source: `SpanNode::depth`. -/
def depth (tree : SpanTree) : Nat := Concept.depthAll tree.concepts

/-- The number of concepts.
Source: `SpanNode::concept_count`. -/
def conceptCount (tree : SpanTree) : Nat := Concept.countAll tree.concepts

/-- Whether the root has no concept below it.
Source: `SpanNode::is_leaf`. -/
def isLeaf (tree : SpanTree) : Bool := tree.concepts.isEmpty

/-- `<root>[CONCEPT, ...]`.
Source: `SpanNode::fmt`. -/
def render (tree : SpanTree) : String := "<root>[" ++ Concept.renderAll tree.concepts ++ "]"

/-- The tree of a list of terms: sorted stably by span, then inserted one by one.
Source: `SpanNode::build`. -/
def build (terms : List Term) : SpanTree := empty.insertAll (Term.sortBySpan terms)

/-- The log lines of inserting terms one by one, from a tree. -/
def insertAllNotes : SpanTree → List Term → List LogLine
  | _, [] => []
  | tree, t :: rest => tree.insertNotes t ++ insertAllNotes (tree.insert t).1 rest

/-- What building a tree reports: each insertion, then a summary.
Source: the log lines of `SpanNode::build`. -/
def buildNotes (terms : List Term) : List LogLine :=
  let tree := build terms
  insertAllNotes empty (Term.sortBySpan terms) ++
    [⟨.debug, "Built span tree from " ++ toString terms.length ++ " tokens: " ++
      toString tree.concepts.length ++ " top-level concepts, depth " ++ toString tree.depth⟩]

end SpanTree

end ConceptQuery
