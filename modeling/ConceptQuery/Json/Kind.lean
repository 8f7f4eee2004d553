import ConceptQuery.Json.Read
import ConceptQuery.Decimal.Layout
import ConceptQuery.Text.Quoted

/-!
# Values of an expected kind

A reader of typed data expects a value of one kind at a place: a string for a name, an object
for a map. Where a value of another kind stands, the failure names both (`misfit`): what was
found in words (`null`, ``boolean `true` ``, ``integer `3` ``, ``floating point `0.5` ``, the
string in quotes, `sequence`, `map`) and what was expected.

A scalar found is read to be named, and the failure is placed after it; an array or an object is
named where it starts. A value that cannot be read fails as reading fails.
-/

namespace ConceptQuery

/-- How a number found in place of another kind is named: an integer as written, a double with
the digits that JSON writes for it. -/
def JsonNumber.found : JsonNumber → String
  | .nat n => "integer `" ++ toString n ++ "`"
  | .neg n => "integer `-" ++ toString n ++ "`"
  | .double x => "floating point `" ++ Decimal.renderFloat .jsonDouble x ++ "`"
  | .single x => "floating point `" ++ Decimal.renderFloat .jsonDouble (singleToDouble x) ++ "`"

namespace Json

/-- The failure for the value at the front of `cs`, where a value described by `expected` should
stand. -/
def misfit (fuel : Nat) (expected : String) (cs : List Char) : Failure :=
  let named (found : String) (rest : List Char) : Failure := ⟨.invalidType found expected, rest, 0⟩
  let after (found : String) : Except Failure (List Char) → Failure
    | .ok rest => named found rest
    | .error f => f
  match cs with
  | [] => ⟨.endInValue, [], 0⟩
  | 'n' :: rest => after "null" (readLetters ['u', 'l', 'l'] rest)
  | 't' :: rest => after "boolean `true`" (readLetters ['r', 'u', 'e'] rest)
  | 'f' :: rest => after "boolean `false`" (readLetters ['a', 'l', 's', 'e'] rest)
  | '"' :: rest =>
    match readStringBody fuel [] rest with
    | .ok (s, r) => named ("string " ++ Text.quoted s) r
    | .error f => f
  | '[' :: rest => named "sequence" ('[' :: rest)
  | '{' :: rest => named "map" ('{' :: rest)
  | c :: rest =>
    if c == '-' || c.isDigit then
      match readNumber (c :: rest) with
      | .ok (n, r) => named n.found r
      | .error f => f
    else ⟨.expectedValue, c :: rest, 1⟩

/-- A string where one is expected, after optional whitespace. -/
def readText (fuel : Nat) (cs : List Char) : Except Failure (String × List Char) :=
  match skipSpace cs with
  | '"' :: rest => readStringBody fuel [] rest
  | [] => failAt .endInValue []
  | other => .error (misfit fuel "a string" other)

/-- An object, read as a map, where one is expected, after optional whitespace; `depth` levels of
nesting are allowed, the map's own included. -/
def readMap (fuel depth : Nat) (cs : List Char) : Except Failure (Members × List Char) :=
  match skipSpace cs with
  | '{' :: rest =>
    if depth == 0 then failPast .tooDeep ('{' :: rest) else readMembers fuel (depth - 1) true [] rest
  | [] => failAt .endInValue []
  | other => .error (misfit fuel "a map" other)

end ConceptQuery.Json
