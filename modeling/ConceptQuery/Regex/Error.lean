/-!
# Why a pattern is refused

A pattern can be refused while it is read (it is not well formed), while it is given its meaning
(it names an unknown property, or asks for what cannot be had without Unicode), or when its
automaton would be too large. `RegexError` names each cause; the analyzers report all of them
the same way.
-/

namespace ConceptQuery.Regex

/-- The causes for refusing a pattern. -/
inductive RegexError where
  /-- A `(` without its `)`. -/
  | groupUnclosed
  /-- A `)` without its `(`. -/
  | groupUnopened
  /-- A `[` without its `]`. -/
  | classUnclosed
  /-- A range in a class whose ends are the wrong way round. -/
  | classRangeInvalid
  /-- A range in a class with an end that is not a single character. -/
  | classRangeLiteral
  /-- An escape in a class that does not stand for characters. -/
  | classEscapeInvalid
  /-- A repetition with nothing to repeat. -/
  | repetitionMissing
  /-- A counted repetition whose least count is above its most. -/
  | repetitionCountInvalid
  /-- A counted repetition without its `}`. -/
  | repetitionCountUnclosed
  /-- A count without digits. -/
  | decimalEmpty
  /-- A count too large. -/
  | decimalInvalid
  /-- A backslash at the end of the pattern, or an escape cut short. -/
  | escapeUnexpectedEnd
  /-- An escape that means nothing. -/
  | escapeUnrecognized
  /-- A hexadecimal escape with a digit that is not one. -/
  | escapeHexInvalidDigit
  /-- A hexadecimal escape with no digits. -/
  | escapeHexEmpty
  /-- A hexadecimal escape that is not a scalar value. -/
  | escapeHexInvalid
  /-- A backslash and a digit: back-references are not supported. -/
  | backreference
  /-- A look-ahead or look-behind: not supported. -/
  | lookAround
  /-- A flag letter that is not a flag. -/
  | flagUnrecognized
  /-- A flag named twice. -/
  | flagDuplicate
  /-- Two `-` among flags. -/
  | flagRepeatedNegation
  /-- A `-` among flags with no flag after it. -/
  | flagDanglingNegation
  /-- Flags cut short by the end of the pattern. -/
  | flagUnexpectedEnd
  /-- A group name with a character not allowed there. -/
  | groupNameInvalid
  /-- An empty group name. -/
  | groupNameEmpty
  /-- A group name used twice. -/
  | groupNameDuplicate
  /-- A group name cut short by the end of the pattern. -/
  | groupNameUnexpectedEnd
  /-- A `\p` or `\P` followed by a backslash. -/
  | propertyClassInvalid
  /-- A `\b{` without its `}`. -/
  | wordBoundaryUnclosed
  /-- A `\b{...}` with a name that is none of `start`, `end`, `start-half`, `end-half`. -/
  | wordBoundaryUnrecognized
  /-- A `\b{` at the end of the pattern. -/
  | wordBoundaryUnexpectedEnd
  /-- Groups, repetitions and classes nested too deep. -/
  | nestLimitExceeded
  /-- A `\p` class, or a non-ASCII character in a class, with Unicode turned off. -/
  | unicodeNotAllowed
  /-- Something that could match part of a character, with Unicode turned off. -/
  | invalidUtf8
  /-- A property name that is not known. -/
  | propertyNotFound
  /-- A property value that is not known. -/
  | propertyValueNotFound
  /-- An automaton beyond the size limit. -/
  | tooBig
deriving Repr, DecidableEq

end ConceptQuery.Regex
