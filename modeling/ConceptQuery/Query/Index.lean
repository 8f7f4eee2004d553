import ConceptQuery.Query.Expression.Basic
import ConceptQuery.Analysis.Analyzer

/-!
# Matching documents in memory

A `Document` holds, for each field, the set of its terms; an expression matches a document when
its leaves hold by the boolean reading of the expression: a leaf when the field has the term,
a conjunction when every clause matches, a disjunction (soft or not) when some clause does, a
boost when what it wraps matches, match all always and match none never. Weights play no part.

A `MemoryIndex` is a list of documents with their ids, in the order they were added (the same id
may come twice); texts are analyzed into terms by the index's analyzer, stopped tokens left out.
A search returns the ids of the matching documents in that order.
-/

namespace ConceptQuery

/-- A document: each field with its terms, each term once, in the order first added.
Source: `MemoryDocument`. -/
structure Document where
  /-- Each field with its terms. -/
  fields : List (String × List String)

namespace Document

/-- A document without fields.
Source: `MemoryDocument::new`. -/
def empty : Document := ⟨[]⟩

/-- Add a term to a field in a list of fields. -/
def addTo (field term : String) : List (String × List String) → List (String × List String)
  | [] => [(field, [term])]
  | (f, ts) :: rest =>
    if f == field then (f, if ts.contains term then ts else ts ++ [term]) :: rest
    else (f, ts) :: addTo field term rest

/-- Add a term to a field.
Source: `MemoryDocument::add_term`. -/
def addTerm (d : Document) (field term : String) : Document := ⟨addTo field term d.fields⟩

/-- Add terms to a field, in order.
Source: `MemoryDocument::with_terms`. -/
def addTerms (d : Document) (field : String) (terms : List String) : Document :=
  terms.foldl (fun acc t => acc.addTerm field t) d

/-- Add the non-stopped tokens of a text, analyzed, to a field.
Source: `MemoryDocument::add_text`. -/
def addText (d : Document) (field text : String) (a : Analyzer) : Document :=
  d.addTerms field (((a.analyze text).filter fun t => !t.stopped).map Token.text)

/-- The terms of a field. -/
def terms (d : Document) (field : String) : List String :=
  ((d.fields.find? (·.1 == field)).map Prod.snd).getD []

/-- Whether a field has a term.
Source: `MemoryDocument::has_term`. -/
def hasTerm (d : Document) (field term : String) : Bool := (d.terms field).contains term

/-- The number of distinct terms of a field.
Source: `MemoryDocument::term_count`. -/
def termCount (d : Document) (field : String) : Nat := (d.terms field).length

end Document

namespace Expression

mutual

/-- Whether an expression matches a document.
Source: `Expression::matches`. -/
def accepts (d : Document) : Expression → Bool
  | .leaf f t _ => d.hasTerm f t
  | .and cs => acceptsAll d cs
  | .or cs | .softOr _ cs => acceptsAny d cs
  | .boost _ inner => accepts d inner
  | .matchAll => true
  | .matchNone => false

/-- Whether every expression matches a document. -/
def acceptsAll (d : Document) : List Expression → Bool
  | [] => true
  | e :: rest => accepts d e && acceptsAll d rest

/-- Whether some expression matches a document. -/
def acceptsAny (d : Document) : List Expression → Bool
  | [] => false
  | e :: rest => accepts d e || acceptsAny d rest

end

end Expression

/-- Documents with ids, in the order they were added, and the analyzer of their texts.
Source: `MemoryIndex`. -/
structure MemoryIndex where
  /-- The analyzer of the documents' texts. -/
  analyzer : Analyzer
  /-- The documents with their ids, in the order they were added. -/
  documents : List (String × Document)

namespace MemoryIndex

/-- An index without documents.
Source: `MemoryIndex::new`. -/
def empty (a : Analyzer) : MemoryIndex := ⟨a, []⟩

/-- Add a document given as field texts, analyzed by the index's analyzer.
Source: `MemoryIndex::add_document`. -/
def addTexts (idx : MemoryIndex) (id : String) (pairs : List (String × String)) : MemoryIndex :=
  let d := pairs.foldl (fun acc (f, text) => acc.addText f text idx.analyzer) Document.empty
  { idx with documents := idx.documents ++ [(id, d)] }

/-- Add a document as it is.
Source: `MemoryIndex::add_indexed`. -/
def add (idx : MemoryIndex) (id : String) (d : Document) : MemoryIndex :=
  { idx with documents := idx.documents ++ [(id, d)] }

/-- The ids of the documents an expression matches, in index order.
Source: `MemoryIndex::search`. -/
def search (idx : MemoryIndex) (e : Expression) : List String :=
  (idx.documents.filter fun (_, d) => e.accepts d).map Prod.fst

/-- The number of documents.
Source: `MemoryIndex::len`. -/
def size (idx : MemoryIndex) : Nat := idx.documents.length

/-- Whether the index holds no document.
Source: `MemoryIndex::is_empty`. -/
def isEmpty (idx : MemoryIndex) : Bool := idx.documents.isEmpty

end MemoryIndex

end ConceptQuery
