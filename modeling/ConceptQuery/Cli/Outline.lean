import ConceptQuery.Query.SpanTree

/-!
# Outlines of span trees

An outline draws a span tree one concept a line, below a `<root>` line. A concept's line is its
margin, a branch (`├── `, or `└── ` for the last child), its writings quoted and joined by
` | `, and its span `[POSITION,START:END]`. The children of a concept are drawn below it with the
margin extended by `│   `, or by four blanks below a last child, so that the vertical bars join
each branch to its siblings further down.
-/

namespace ConceptQuery

namespace Concept

/-- `"W1" | "W2" [POSITION,START:END]`: the writings of a concept and its span. -/
def outlineLabel (c : Concept) : String :=
  " | ".intercalate (c.writings.map fun w => "\"" ++ w ++ "\"") ++ " [" ++
    toString c.term.position ++ "," ++ toString c.term.start ++ ":" ++ toString c.term.stop ++ "]"

mutual

/-- The lines of a concept and its descendants, drawn after `margin`; `last` tells whether it is
the last of its siblings.
Source: `outline_node`. -/
def outlineLines (margin : String) (last : Bool) : Concept → List String
  | ⟨term, alts, children⟩ =>
    (margin ++ (if last then "└── " else "├── ") ++ outlineLabel ⟨term, alts, children⟩) ::
      outlineAll (margin ++ if last then "    " else "│   ") children

/-- The lines of sibling concepts drawn after `margin`. -/
def outlineAll (margin : String) : List Concept → List String
  | [] => []
  | [c] => outlineLines margin true c
  | c :: rest => outlineLines margin false c ++ outlineAll margin rest

end

end Concept

/-- The outline of a tree: `<root>`, then the lines of its concepts.
Source: `outline_tree`. -/
def SpanTree.outline (tree : SpanTree) : List String :=
  "<root>" :: Concept.outlineAll "" tree.concepts

end ConceptQuery
