/-!
# Errors

Every operation of the library that can fail names its cause with an `Error`. The constructors
are the kinds of failure: an input that cannot be read, an analysis that cannot run, a query or a
configuration that is malformed, a provider that refuses a term, JSON that is not JSON, a bad
argument, a documents file with a bad line. Each carries the detail of what went wrong;
`Error.message` adds the kind's prefix.
-/

namespace ConceptQuery

/-- What is wrong with a line of a documents file. -/
inductive LineFault where
  /-- The line is not a document; the JSON reader's description of why. -/
  | unreadable (description : String)
  /-- An array of terms holds something other than a string. -/
  | termNotText (field : String)
  /-- A field's value is neither a text nor an array of terms; the value as compact JSON. -/
  | unsupported (field value : String)
deriving Repr, DecidableEq

/-- The description of a line's fault. -/
def LineFault.text : LineFault → String
  | .unreadable description => description
  | .termNotText field => "terms of [" ++ field ++ "] must be strings"
  | .unsupported field value => "unsupported value for [" ++ field ++ "]: " ++ value

/-- Why an operation failed.
Source: `SpanfoldError`. -/
inductive Error where
  /-- A file could not be read; the detail is the system's description. -/
  | io (detail : String)
  /-- Text could not be analyzed: an unknown analyzer, a bad pattern, inconsistent tokens. -/
  | analysis (detail : String)
  /-- A query, a request or a field list is malformed. -/
  | query (detail : String)
  /-- A query was configured with values outside their range. -/
  | configuration (detail : String)
  /-- A provider could not be built or refused to expand a term. -/
  | provider (detail : String)
  /-- A text is not JSON, or JSON does not have the expected shape; the reader's description of
  why. -/
  | json (description : String)
  /-- An argument is unusable. -/
  | invalidArgument (detail : String)
  /-- A line of a documents file, numbered from 1, could not be read. -/
  | documents (path : String) (line : Nat) (fault : LineFault)
deriving Repr, DecidableEq

/-- The text of an error: the prefix of its kind and its detail.
Source: `SpanfoldError::fmt`. -/
def Error.message : Error → String
  | .io d => "I/O error: " ++ d
  | .analysis d => "Analysis error: " ++ d
  | .query d => "Query error: " ++ d
  | .configuration d => "Configuration error: " ++ d
  | .provider d => "Provider error: " ++ d
  | .json d => "JSON error: " ++ d
  | .invalidArgument d => "Error: Invalid argument: " ++ d
  | .documents path line fault =>
    "Anyhow error: " ++ path ++ ": line " ++ toString line ++ ": " ++ fault.text

end ConceptQuery
