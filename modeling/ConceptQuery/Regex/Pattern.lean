import ConceptQuery.Regex.CharSet
import ConceptQuery.Regex.Property

/-!
# Patterns by meaning

A `Pattern` is what a regular expression means once its flags have been applied: sets of
characters, zero-width conditions (`Look`), repetitions with their bounds and greed,
concatenations, alternations and capture groups. Case folding, negation, the `.` and Perl classes have all become
plain `CharSet`s.

**Lengths.** `Pattern.minLen` and `Pattern.maxLen` bound the length in UTF-8 bytes of what a
pattern matches. `none` stands for no bound, and also for a pattern built on a set that matches
nothing: such a set has no length, and an alternation or concatenation with such a part has none
either. Two facts are read off them: whether a pattern must consume something (`minLen` above
zero), and whether it never consumes anything (`maxLen` zero).

**Repetitions.** `Pattern.repeat` brings a repetition into its usual form: a repetition of a
pattern that consumes nothing repeats at most once, `x{0}` is empty and `x{1}` is `x`.
-/

namespace ConceptQuery.Regex

/-- The kinds of word boundary. -/
inductive WordLook where
  /-- A word character on exactly one side. -/
  | boundary
  /-- Word characters on both sides or on neither. -/
  | notBoundary
  /-- No word character before, one after. -/
  | start
  /-- A word character before, none after. -/
  | finish
  /-- No word character before. -/
  | startHalf
  /-- No word character after. -/
  | finishHalf
deriving Repr, DecidableEq

/-- Conditions on a place in a text, which consume nothing. -/
inductive Look where
  /-- The start of the text. -/
  | textStart
  /-- The end of the text. -/
  | textEnd
  /-- The start of a line: after a line feed (or a lone carriage return, with `crlf`). -/
  | lineStart (crlf : Bool)
  /-- The end of a line: before a line feed (or a carriage return, with `crlf`). -/
  | lineEnd (crlf : Bool)
  /-- A word boundary of some kind, with word characters those of Unicode or of ASCII. -/
  | word (kind : WordLook) (unicode : Bool)
deriving Repr, DecidableEq

/-- Whether a condition holds before the character at `pos` of a text. -/
def Look.holds (l : Look) (text : Array Char) (pos : Nat) : Bool :=
  let before : Option Char := if pos == 0 then none else text[pos - 1]?
  let after : Option Char := text[pos]?
  match l with
  | .textStart => pos == 0
  | .textEnd => pos ≥ text.size
  | .lineStart false => pos == 0 || before == some '\n'
  | .lineEnd false => pos ≥ text.size || after == some '\n'
  | .lineStart true =>
    pos == 0 || before == some '\n' || (before == some '\r' && after != some '\n')
  | .lineEnd true =>
    pos ≥ text.size || after == some '\r' || (after == some '\n' && before != some '\r')
  | .word kind unicode =>
    let isWord := if unicode then isWordChar else isAsciiWordChar
    let wordBefore := (before.map isWord).getD false
    let wordAfter := (after.map isWord).getD false
    match kind with
    | .boundary => wordBefore != wordAfter
    | .notBoundary => wordBefore == wordAfter
    | .start => !wordBefore && wordAfter
    | .finish => wordBefore && !wordAfter
    | .startHalf => !wordBefore
    | .finishHalf => !wordAfter

/-- A regular expression by meaning. -/
inductive Pattern where
  /-- Nothing: matches the empty text. -/
  | empty
  /-- One character of a set. -/
  | chars (set : CharSet)
  /-- A condition on the place. -/
  | look (l : Look)
  /-- A pattern repeated at least `min` and at most `max` times (`none`: no most), preferring more
  repetitions when greedy and fewer otherwise. -/
  | repetition (min : Nat) (max : Option Nat) (greedy : Bool) (sub : Pattern)
  /-- Patterns one after the other. -/
  | concat (parts : List Pattern)
  /-- Alternatives, the earlier preferred. -/
  | alternation (alternatives : List Pattern)
  /-- A capture group: matches what its contents match. -/
  | capture (sub : Pattern)
deriving Repr

/-- The length of a code point in UTF-8. -/
def utf8Length (n : Nat) : Nat :=
  if n < 0x80 then 1 else if n < 0x800 then 2 else if n < 0x10000 then 3 else 4

/-- The shortest UTF-8 length of a member of a set; none for the empty set. -/
def CharSet.minLen (s : CharSet) : Option Nat := s.ranges.head?.map fun r => utf8Length r.1

/-- The longest UTF-8 length of a member of a set; none for the empty set. -/
def CharSet.maxLen (s : CharSet) : Option Nat := s.ranges.getLast?.map fun r => utf8Length r.2

/-- The sum of lengths, none if any is none. -/
def sumLengths : List (Option Nat) → Option Nat
  | [] => some 0
  | x :: rest => do
    let a ← x
    let b ← sumLengths rest
    pure (a + b)

/-- The least of lengths, none if any is none or there are none. -/
def leastLength : List (Option Nat) → Option Nat
  | [] => none
  | [x] => x
  | x :: rest => do
    let a ← x
    let b ← leastLength rest
    pure (Nat.min a b)

/-- The greatest of lengths, none if any is none or there are none. -/
def greatestLength : List (Option Nat) → Option Nat
  | [] => none
  | [x] => x
  | x :: rest => do
    let a ← x
    let b ← greatestLength rest
    pure (Nat.max a b)

mutual

/-- The least length in UTF-8 bytes of a match. -/
def Pattern.minLen : Pattern → Option Nat
  | .empty => some 0
  | .chars s => s.minLen
  | .look _ => some 0
  | .repetition min _ _ sub => sub.minLen.map (· * min)
  | .concat parts => sumLengths (Pattern.minLens parts)
  | .alternation alts => leastLength (Pattern.minLens alts)
  | .capture sub => sub.minLen

/-- The least lengths of patterns. -/
def Pattern.minLens : List Pattern → List (Option Nat)
  | [] => []
  | p :: rest => p.minLen :: Pattern.minLens rest

end

mutual

/-- The greatest length in UTF-8 bytes of a match, none if there is no bound. -/
def Pattern.maxLen : Pattern → Option Nat
  | .empty => some 0
  | .chars s => s.maxLen
  | .look _ => some 0
  | .repetition _ max _ sub => max.bind fun m => sub.maxLen.map (· * m)
  | .concat parts => sumLengths (Pattern.maxLens parts)
  | .alternation alts => greatestLength (Pattern.maxLens alts)
  | .capture sub => sub.maxLen

/-- The greatest lengths of patterns. -/
def Pattern.maxLens : List Pattern → List (Option Nat)
  | [] => []
  | p :: rest => p.maxLen :: Pattern.maxLens rest

end

/-- A repetition in its usual form: a pattern that consumes nothing is repeated at most once,
`x{0}` is empty and `x{1}` is `x`. -/
def Pattern.repeat (min : Nat) (max : Option Nat) (greedy : Bool) (sub : Pattern) : Pattern :=
  let (min, max) :=
    if sub.maxLen == some 0 then (Nat.min min 1, some ((max.getD 1).min 1)) else (min, max)
  if min == 0 && max == some 0 then .empty
  else if min == 1 && max == some 1 then sub
  else .repetition min max greedy sub

end ConceptQuery.Regex
