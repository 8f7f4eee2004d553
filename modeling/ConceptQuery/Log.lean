/-!
# Log lines

Some operations report what they did, for a reader who asked for details: how many terms an
analysis produced, which concepts a tree gained, what a query compiled to. These reports are
values: an operation that reports returns its `LogLine`s next to its result, and the command
line decides which levels to show.
-/

namespace ConceptQuery

/-- How detailed a log line is, from the most to the least important. -/
inductive Level where
  /-- A failure. -/
  | error
  /-- Something doubtful that did not stop the work. -/
  | warn
  /-- Progress. -/
  | info
  /-- Detail for a developer. -/
  | debug
  /-- Every step. -/
  | trace
deriving Repr, DecidableEq

/-- The rank of a level: 1 for errors up to 5 for traces. -/
def Level.rank : Level → Nat
  | .error => 1
  | .warn => 2
  | .info => 3
  | .debug => 4
  | .trace => 5

/-- The name of a level in capitals. -/
def Level.name : Level → String
  | .error => "ERROR"
  | .warn => "WARN"
  | .info => "INFO"
  | .debug => "DEBUG"
  | .trace => "TRACE"

/-- One reported event. -/
structure LogLine where
  /-- How important the line is. -/
  level : Level
  /-- What the line says. -/
  message : String
deriving Repr, DecidableEq

end ConceptQuery
