/-!
# Blank characters

The characters with the Unicode property White_Space: the ASCII tab, line feed, vertical tab,
form feed, carriage return and space, the next-line control `U+0085`, the no-break space
`U+00A0`, the Ogham space mark `U+1680`, the spaces `U+2000` to `U+200A`, the line and paragraph
separators `U+2028` and `U+2029`, the narrow no-break space `U+202F`, the medium mathematical
space `U+205F` and the ideographic space `U+3000`. The zero-width space `U+200B` is not blank.
-/

namespace ConceptQuery.Text

/-- Whether a character has the Unicode property White_Space.
Source: `char::is_whitespace`. -/
def isBlank (c : Char) : Bool :=
  let n := c.toNat
  (9 ≤ n && n ≤ 13) || n == 32 || n == 0x85 || n == 0xA0 || n == 0x1680 ||
    (0x2000 ≤ n && n ≤ 0x200A) || n == 0x2028 || n == 0x2029 || n == 0x202F || n == 0x205F ||
    n == 0x3000

/-- A text without its leading and trailing blank characters.
Source: `str::trim`. -/
def trimBlank (s : String) : String :=
  String.ofList ((s.toList.dropWhile isBlank).reverse.dropWhile isBlank).reverse

/-- The blanks of the library's own test are blank here too. -/
theorem isBlank_of_isWhitespace (c : Char) (h : c.isWhitespace = true) : isBlank c = true := by
  simp only [Char.isWhitespace, Bool.or_eq_true, decide_eq_true_eq] at h
  simp only [isBlank, Bool.or_eq_true, Bool.and_eq_true, decide_eq_true_eq, beq_iff_eq]
  rcases h with ((h | h) | h) | h <;> simp [h]

example : isBlank '\u3000' = true ∧ isBlank '\u200B' = false ∧ isBlank '\x0c' = true := by decide

example : trimBlank "  a b\t" = "a b" := by decide +kernel

end ConceptQuery.Text
