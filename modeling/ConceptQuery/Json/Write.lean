import ConceptQuery.Json.Value
import ConceptQuery.Decimal.Layout

/-!
# Writing JSON text

`Json.compact` writes a value on one line with no spaces; `Json.pretty` writes it over several
lines, two spaces of indent per level, `": "` between a key and its value. Members of objects come
in the order the value holds them.

Strings escape the quote, the backslash and every control character below `U+0020`: backspace,
form feed, line feed, carriage return and tab by their short escapes, the others as `\u00XX`
with lowercase digits. Doubles and singles are written with the fewest digits that read back in
their own precision (`FloatStyle.jsonDouble`, `FloatStyle.jsonSingle`); NaN and the infinities
have no JSON form and are written `null`.
-/

namespace ConceptQuery

open Decimal

/-- The text of a number. -/
def JsonNumber.render : JsonNumber → String
  | .nat n => toString n
  | .neg n => "-" ++ toString n
  | .double x => renderFloat .jsonDouble x
  | .single x => renderFloat32 .jsonSingle x

namespace Json

/-- How a JSON string writes one character. -/
def escapeChar (c : Char) : String :=
  if c == '"' then "\\\""
  else if c == '\\' then "\\\\"
  else if c == '\n' then "\\n"
  else if c == '\r' then "\\r"
  else if c == '\t' then "\\t"
  else if c == '\x08' then "\\b"
  else if c == '\x0c' then "\\f"
  else if c.toNat < 0x20 then
    let hex := Nat.toDigits 16 c.toNat
    "\\u" ++ String.ofList (List.replicate (4 - hex.length) '0' ++ hex)
  else String.singleton c

/-- A string as a JSON string literal. -/
def quote (s : String) : String := "\"" ++ String.join (s.toList.map escapeChar) ++ "\""

mutual

/-- A value on one line.
Source: `serde_json::to_string`. -/
def compact : Json → String
  | .null => "null"
  | .bool b => if b then "true" else "false"
  | .number n => n.render
  | .string s => quote s
  | .array xs => "[" ++ compactItems xs ++ "]"
  | .object ms => "\x7b" ++ compactMembers ms ++ "\x7d"

/-- Items of an array on one line, separated by commas. -/
def compactItems : List Json → String
  | [] => ""
  | [x] => compact x
  | x :: rest => compact x ++ "," ++ compactItems rest

/-- Members of an object on one line, separated by commas. -/
def compactMembers : List (String × Json) → String
  | [] => ""
  | [(k, v)] => quote k ++ ":" ++ compact v
  | (k, v) :: rest => quote k ++ ":" ++ compact v ++ "," ++ compactMembers rest

end

/-- `n` levels of indent. -/
def indent (n : Nat) : String := String.ofList (List.replicate (2 * n) ' ')

mutual

/-- A value over several lines, its nested lines indented one level deeper than `level`. -/
def prettyAt (level : Nat) : Json → String
  | .array [] => "[]"
  | .object [] => "\x7b\x7d"
  | .array xs => "[\n" ++ prettyItems (level + 1) xs ++ "\n" ++ indent level ++ "]"
  | .object ms => "\x7b\n" ++ prettyMembers (level + 1) ms ++ "\n" ++ indent level ++ "\x7d"
  | j => compact j

/-- Items of an array, one per line at `level`. -/
def prettyItems (level : Nat) : List Json → String
  | [] => ""
  | [x] => indent level ++ prettyAt level x
  | x :: rest => indent level ++ prettyAt level x ++ ",\n" ++ prettyItems level rest

/-- Members of an object, one per line at `level`. -/
def prettyMembers (level : Nat) : List (String × Json) → String
  | [] => ""
  | [(k, v)] => indent level ++ quote k ++ ": " ++ prettyAt level v
  | (k, v) :: rest =>
    indent level ++ quote k ++ ": " ++ prettyAt level v ++ ",\n" ++ prettyMembers level rest

end

/-- A value over several lines.
Source: `serde_json::to_string_pretty`. -/
def pretty (j : Json) : String := prettyAt 0 j

end Json

end ConceptQuery
