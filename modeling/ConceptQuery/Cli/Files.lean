import ConceptQuery.Error

/-!
# Files

Commands read files by path through a `Files` value: what each path names, a file's bytes, a
directory, nothing, or something that could not be read. Reading is pure; the program gathers
the entries it needs before running a command.

**Whole files** (`Files.readText`) must be UTF-8. **Files read by lines** (`Files.readLines`)
yield one result per line: lines end at `\n`, which is removed together with a `\r` before it;
a final line without `\n` counts, an empty end does not. Each line is checked for UTF-8 on its
own, so the lines before a bad one are still read. A directory opens, but reading it fails.

The failures carry the system's descriptions, as `Error.io`.
-/

namespace ConceptQuery.Cli

/-- What a path names. -/
inductive Entry where
  /-- Nothing. -/
  | missing
  /-- A directory. -/
  | directory
  /-- A file, with its bytes. -/
  | file (content : ByteArray)
  /-- Anything else that went wrong, with the system's description. -/
  | unreadable (reason : String)

/-- Files by path. -/
abbrev Files := String → Entry

namespace Files

/-- The description of a missing file. -/
def missingText : String := "No such file or directory (os error 2)"

/-- The description of a directory read as a file. -/
def directoryText : String := "Is a directory (os error 21)"

/-- The description of a path through a file. -/
def notDirectoryText : String := "Not a directory (os error 20)"

/-- The description of bytes that are not UTF-8. -/
def notUtf8Text : String := "stream did not contain valid UTF-8"

/-- The parts of a path, without empty and `.` parts. -/
def pathParts (path : String) : List String :=
  (path.splitOn "/").filter fun p => !p.isEmpty && p != "."

/-- Whether a path can only name a directory: it ends in a separator, or in `.` after one. -/
def endsAsDirectory (path : String) : Bool :=
  match (path.splitOn "/").reverse with
  | last :: _ :: _ => last.isEmpty || last == "."
  | _ => false

/-- Files given by name: named files and directories, and the directories that hold them. A path
is compared by its parts, so `./a` and `a` name the same file; the empty path names nothing, and a
path through a file, or one that ends as a directory where a file stands, names nothing that can
be read. -/
def ofEntries (files : List (String × ByteArray)) (dirs : List String) : Files := fun path =>
  if path.isEmpty then .missing else
  let parts := pathParts path
  let fileParts := files.map fun (n, b) => (pathParts n, b)
  let dirParts := dirs.map pathParts
  match fileParts.find? (·.1 == parts) with
  | some (_, b) => if endsAsDirectory path then .unreadable notDirectoryText else .file b
  | none =>
    if parts.isEmpty || dirParts.contains parts ||
        fileParts.any (fun (p, _) => parts.isPrefixOf p) ||
        dirParts.any (fun p => parts.isPrefixOf p) then .directory
    else if fileParts.any (fun (p, _) => p.isPrefixOf parts) then .unreadable notDirectoryText
    else .missing

/-- Read a whole file as text. -/
def readText (fs : Files) (path : String) : Except Error String :=
  match fs path with
  | .missing => .error (.io missingText)
  | .directory => .error (.io directoryText)
  | .unreadable reason => .error (.io reason)
  | .file bytes =>
    match String.fromUTF8? bytes with
    | some s => .ok s
    | none => .error (.io notUtf8Text)

/-- Split bytes into lines at `\n`, dropping the `\r` before it; a final line without `\n` counts,
an empty end does not. -/
def splitLines (bytes : List UInt8) : List (List UInt8) :=
  let trimmed (line : List UInt8) : List UInt8 :=
    if line.getLast? == some 13 then line.dropLast else line
  let rec go : List UInt8 → List UInt8 → List (List UInt8)
    | [], [] => []
    | [], current => [current.reverse]
    | b :: rest, current =>
      if b == 10 then trimmed current.reverse :: go rest [] else go rest (b :: current)
  go bytes []

/-- Read a file line by line: a failure to open it, or one result per line. -/
def readLines (fs : Files) (path : String) : Except Error (List (Except Error String)) :=
  match fs path with
  | .missing => .error (.io missingText)
  | .directory => .ok [.error (.io directoryText)]
  | .unreadable reason => .error (.io reason)
  | .file bytes =>
    .ok ((splitLines bytes.toList).map fun line =>
      match String.fromUTF8? ⟨line.toArray⟩ with
      | some s => .ok s
      | none => .error (.io notUtf8Text))

end Files

end ConceptQuery.Cli
