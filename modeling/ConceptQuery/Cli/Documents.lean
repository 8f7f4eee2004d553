import ConceptQuery.Cli.Files
import ConceptQuery.Query.Index
import ConceptQuery.Json.Kind
import ConceptQuery.Json.Skip
import ConceptQuery.Json.Write

/-!
# Documents files

A documents file holds one document a line, as JSON: `{"id": ID, "fields": {FIELD: VALUE}}`,
where the id is a string and each value is a text, analyzed into terms (the stopped ones left
out), or an array of terms, added as they are. Blank lines are skipped but counted.

**A line is a record** (`DocumentRecord.read`) of exactly two fields, `id` and `fields`: an
object that holds both once, whose other members are passed over unread (`Json.skipValue`), or
the array `[ID, FIELDS]`. Its faults are placed as a JSON reader places them (`Json.Failure`); a
field missing, given twice, or an array too short is reported past the closing bracket or brace
when it comes next, else where the reader stands.

The first bad line stops the reading with an error `PATH: line N: ...`: a line that is no such
record, a term that is not a string, or a value that is neither text nor array (shown as
compact JSON). Fields are read in key order. A line that cannot be read at all stops the reading
with that failure.
-/

namespace ConceptQuery.Cli

open Json

/-- What a line of a documents file holds. -/
structure DocumentRecord where
  /-- The document's id. -/
  id : String
  /-- The document's fields by name. -/
  fields : Json.Members

namespace DocumentRecord

/-- How the record is named when a value of another kind stands in its place. -/
def described : String := "struct DocumentLine"

/-- How the record is named when an array is too short to hold it. -/
def describedItems : String := "struct DocumentLine with 2 elements"

/-- The levels of nesting allowed in a field's value, below the record and its fields. -/
def valueDepth : Nat := 125

/-- The rest of the text once a closing `close` is passed, if it comes next after whitespace:
where a missing, repeated or absent field is reported. -/
def pastClose (close : Char) (cs : List Char) : List Char :=
  match skipSpace cs with
  | c :: rest => if c == close then rest else c :: rest
  | [] => []

/-- Read the members of a record written as an object, after its opening brace: the id and the
fields found so far, and whether no member has been read yet. -/
def readMembers : Nat → Option String → Option Json.Members → Bool → List Char →
    Except Failure (DocumentRecord × List Char)
  | 0, _, _, _, cs => failAt .endInObject cs
  | fuel + 1, id?, fields?, first, cs =>
    match skipSpace cs with
    | [] => failAt .endInObject []
    | '}' :: after =>
      match id?, fields? with
      | some id, some fields => pure (⟨id, fields⟩, after)
      | none, _ => failAt (.missingField "id") after
      | some _, none => failAt (.missingField "fields") after
    | c :: rest => do
      let start ←
        if first then pure (c :: rest)
        else if c == ',' then pure (skipSpace rest)
        else failPast .expectedCommaOrBrace (c :: rest)
      match start with
      | '"' :: keyRest =>
        let (key, afterKey) ← readStringBody fuel [] keyRest
        if key == "id" then
          if id?.isSome then failAt (.duplicateField "id") (pastClose '}' afterKey)
          else
            let (id, r) ← readText fuel (← readColon afterKey)
            readMembers fuel (some id) fields? false r
        else if key == "fields" then
          if fields?.isSome then failAt (.duplicateField "fields") (pastClose '}' afterKey)
          else
            let (fields, r) ← readMap fuel (valueDepth + 1) (← readColon afterKey)
            readMembers fuel id? (some fields) false r
        else
          let r ← skipValue fuel (← readColon afterKey)
          readMembers fuel id? fields? false r
      | '}' :: more => failPast .trailingComma ('}' :: more)
      | [] => failAt .endInValue []
      | other :: more => failPast .keyNotString (other :: more)

/-- Read a record written as the array `[ID, FIELDS]`, after its opening bracket. -/
def readItems (fuel : Nat) (cs : List Char) : Except Failure (DocumentRecord × List Char) :=
  match skipSpace cs with
  | [] => failAt .endInList []
  | ']' :: after => failAt (.invalidLength 0 describedItems) after
  | c :: more => do
    let (id, r) ← readText fuel (c :: more)
    match skipSpace r with
    | [] => failAt .endInList []
    | ']' :: after => failAt (.invalidLength 1 describedItems) after
    | ',' :: after =>
      match skipSpace after with
      | [] => failAt .endInValue []
      | ']' :: rest => failPast .trailingComma (']' :: rest)
      | start =>
        let (fields, r) ← readMap fuel (valueDepth + 1) start
        match skipSpace r with
        | ']' :: rest => pure (⟨id, fields⟩, rest)
        | ',' :: rest =>
          match skipSpace rest with
          | ']' :: more => failPast .trailingComma (']' :: more)
          | other => failPast .trailingCharacters other
        | [] => failAt .endInList []
        | other => failPast .trailingCharacters other
    | other => failPast .expectedCommaOrBracket other

/-- Read the record of a line: one object or array with optional whitespace around it. -/
def read (line : String) : Except Failure DocumentRecord := do
  let cs := line.toList
  let fuel := 2 * cs.length + 2
  let (record, rest) ←
    match skipSpace cs with
    | [] => failAt .endInValue []
    | '[' :: more => readItems fuel more
    | '{' :: more => readMembers fuel none none true more
    | other => .error (misfit fuel described other)
  match skipSpace rest with
  | [] => pure record
  | c :: more => failPast .trailingCharacters (c :: more)

end DocumentRecord

/-- The error of a line of a documents file. -/
def lineError (path : String) (n : Nat) (fault : LineFault) : Error := .documents path n fault

/-- Add the terms of an array to a field, each of which must be a string. -/
def addTermsOf (path : String) (n : Nat) (field : String) (d : Document) :
    List Json → Except Error Document
  | [] => .ok d
  | .string t :: rest => addTermsOf path n field (d.addTerm field t) rest
  | _ :: _ => .error (lineError path n (.termNotText field))

/-- Add one field of a document line. -/
def addFieldOf (a : Analyzer) (path : String) (n : Nat) (d : Document) :
    String × Json → Except Error Document
  | (f, .string text) => .ok (d.addText f text a)
  | (f, .array items) => addTermsOf path n f d items
  | (f, other) => .error (lineError path n (.unsupported f (Json.compact other)))

/-- The document of a non-blank line. -/
def readDocument (a : Analyzer) (path : String) (n : Nat) (line : String) :
    Except Error (String × Document) := do
  let r ← (DocumentRecord.read line).mapError fun f =>
    lineError path n (.unreadable (f.describe line))
  let d ← r.fields.foldlM (addFieldOf a path n) Document.empty
  pure (r.id, d)

/-- Add the documents of lines numbered from `n` to an index. -/
def addLines (a : Analyzer) (path : String) :
    Nat → List (Except Error String) → MemoryIndex → Except Error MemoryIndex
  | _, [], idx => .ok idx
  | n, line :: rest, idx => do
    let text ← line
    if (Text.trimBlank text).isEmpty then addLines a path (n + 1) rest idx
    else
      let (id, d) ← readDocument a path n text
      addLines a path (n + 1) rest (idx.add id d)

/-- The index of a documents file, its texts analyzed by an analyzer.
Source: `load_documents`. -/
def loadDocuments (fs : Files) (path : String) (a : Analyzer) : Except Error MemoryIndex := do
  addLines a path 1 (← fs.readLines path) (MemoryIndex.empty a)

end ConceptQuery.Cli
