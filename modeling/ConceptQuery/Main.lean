import ConceptQuery.Cli.Run

/-!
# The program

Reads the command line, gathers the files the command names, runs it with `Cli.execute`, and
writes its output, its shown log lines and its error. The exit code is 0 on success, 1 after an
error, 2 for a command line that cannot be run (0 when it asks for help or the version).
-/

open ConceptQuery ConceptQuery.Cli

/-- The usage text shown for help requests and refused command lines. -/
def usage : String :=
  "Usage: [OPTIONS] <COMMAND>\n\n" ++
  "Commands:\n" ++
  "  tree     Show the span tree of an analyzed text\n" ++
  "  compile  Compile a text into an across-variants expression\n" ++
  "  request  Parse a JSON request file and compile it\n" ++
  "  help     Print this message or the help of the given command\n\n" ++
  "Options:\n" ++
  "  -v, --verbose...       Verbosity level\n" ++
  "  -q, --quiet            Quiet mode (overrides verbose)\n" ++
  "  -f, --format <FORMAT>  Output format [default: human] [possible values: human, json]\n" ++
  "      --pretty           Pretty-print JSON output\n" ++
  "  -h, --help             Print help\n" ++
  "  -V, --version          Print version\n"

/-- The entry a path names, as far as reading it tells. -/
def entryOfError : IO.Error → Entry
  | .noFileOrDirectory .. => .missing
  | .inappropriateType _ 21 _ => .directory
  | .otherError 21 _ => .directory
  | .inappropriateType _ 20 _ => .unreadable Files.notDirectoryText
  | e => .unreadable (toString e)

/-- Read what a path names. -/
def readEntry (path : String) : IO Entry := do
  try
    pure (.file (← IO.FS.readBinFile path))
  catch e =>
    pure (entryOfError e)

/-- The paths a command reads. -/
def pathsOf : Command → List String
  | .request o => o.requestFile :: o.documents.toList
  | _ => []

/-- The program: read the command line, read the files its command names, run it, and print
what it shows, its log and its exit code.
Source: `main`. -/
def main (args : List String) : IO UInt32 := do
  match Arguments.parse args with
  | .error u =>
    match u with
    | .displayHelp => IO.print usage
    | .displayVersion => IO.println "0.1.0"
    | _ => IO.eprint ("error: " ++ u.name ++ "\n\n" ++ usage)
    pure u.exitCode.toUInt32
  | .ok a =>
    let entries ← (pathsOf a.command).mapM fun p => do pure (p, ← readEntry p)
    let files : Files := fun p => ((entries.find? (·.1 == p)).map Prod.snd).getD .missing
    let o := execute a files
    IO.print o.stdout
    IO.eprint (o.stderr a.verbosity)
    pure o.exitCode.toUInt32
