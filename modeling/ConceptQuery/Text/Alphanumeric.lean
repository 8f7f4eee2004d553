import ConceptQuery.Text.Alphabetic
import ConceptQuery.Text.Numeric

/-!
# Alphanumeric characters

A character is *alphanumeric* when it is alphabetic or a number (general category Nd, Nl or No).
-/

namespace ConceptQuery.Text

/-- Whether a character is alphabetic or a number.
Source: `char::is_alphanumeric`. -/
def isAlphanumeric (c : Char) : Bool := isAlphabetic c || isNumber c

example : isAlphanumeric '½' = true ∧ isAlphanumeric '-' = false := by decide +kernel

end ConceptQuery.Text
