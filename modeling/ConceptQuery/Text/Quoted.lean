import ConceptQuery.Text.Unprintable

/-!
# Quoted text for debugging descriptions

A debugging description shows a text between double quotes so that every character can be seen:
the quote and the backslash are escaped with a backslash, the null character, tab, carriage
return and line feed have their short escapes, and every character that `isUnprintable` names is
written as `\u{hex}` with lowercase digits and no padding. All else stands as it is, non-ASCII
letters included.
-/

namespace ConceptQuery.Text

/-- Lowercase hexadecimal digits of a number, without padding. -/
def hexDigits (n : Nat) : String := String.ofList (Nat.toDigits 16 n)

/-- How a debugging description writes one character of a quoted text. -/
def quotedChar (c : Char) : String :=
  if c == '\x00' then "\\0"
  else if c == '\t' then "\\t"
  else if c == '\r' then "\\r"
  else if c == '\n' then "\\n"
  else if c == '\\' then "\\\\"
  else if c == '"' then "\\\""
  else if isUnprintable c then "\\u\x7b" ++ hexDigits c.toNat ++ "\x7d"
  else String.singleton c

/-- A text between double quotes, escaped for a debugging description. -/
def quoted (s : String) : String :=
  "\"" ++ String.join (s.toList.map quotedChar) ++ "\""

example : quoted "a\"b\n" = "\"a\\\"b\\n\"" := by decide +kernel
example : quoted "i\u0307" = "\"i\\u\x7b307\x7d\"" := by decide +kernel

end ConceptQuery.Text
