/-!
# Patterns as written

The syntax tree of a regular expression keeps what was written, before any of it is given a
meaning: literal characters, the dot, assertions, classes (`\d`, `\p{Greek}`, bracketed classes
with ranges, nested classes, ASCII classes and the set operations `&&`, `--` and `~~`),
repetitions as written (`*`, `+?`, `{2,5}`), groups with their flags, alternations and
concatenations. Flags written on their own, `(?i)`, are items of the concatenation they stand in.

**Nesting.** A tree may be nested at most `nestLimit` levels deep (`Ast.depth`). Each group,
repetition, alternation, concatenation and bracketed class is a level; inside a bracketed class so
are each nested class, each union of two or more items and each set operation. So `a**` is two
levels deep and `(a|b)` two, while the innermost `a` adds none.
-/

namespace ConceptQuery.Regex

/-- A flag that changes how the rest of a group is read or matched. -/
inductive Flag where
  /-- `i`: letters match regardless of case. -/
  | caseInsensitive
  /-- `m`: `^` and `$` match at the ends of lines. -/
  | multiLine
  /-- `s`: the dot matches line breaks too. -/
  | dotMatchesNewLine
  /-- `U`: repetitions are lazy unless marked, and marked ones greedy. -/
  | swapGreed
  /-- `u`: classes, case and word boundaries are those of Unicode rather than ASCII. -/
  | unicode
  /-- `R`: a carriage return also ends a line. -/
  | crlf
  /-- `x`: whitespace and `#` comments in the pattern are ignored. -/
  | ignoreWhitespace
deriving Repr, DecidableEq

/-- Flags as written: each flag with whether it is turned on (it stands before the `-`). -/
abbrev FlagItems := List (Flag × Bool)

/-- The setting of a flag by flag items, if they name it. -/
def FlagItems.setting (items : FlagItems) (f : Flag) : Option Bool :=
  (items.find? (·.1 == f)).map (·.2)

/-- The classes `[:name:]` of ASCII characters. -/
inductive AsciiClass where
  /-- The POSIX classes, as `[[:alnum:]]`. -/
  | alnum | alpha | ascii | blank | cntrl | digit | graph | lower | print | punct | space | upper
  /-- The word and hexadecimal digit classes. -/
  | word | xdigit
deriving Repr, DecidableEq

/-- The classes `\d`, `\s` and `\w`. -/
inductive PerlClass where
  /-- `\d`, `\s` and `\w`. -/
  | digit | space | word
deriving Repr, DecidableEq

/-- How a `\p` class names its characters: by one letter (`\pL`), by a name (`\p{Greek}`), or by
a property and a value (`\p{sc=Greek}`, `\p{sc!=Greek}`, the latter negated). -/
inductive PropertyQuery where
  /-- A one-letter general category, as `\pL`. -/
  | letter (c : Char)
  /-- A property, category or script by name, as `\p{Greek}`. -/
  | named (name : String)
  /-- A property with a value, as `\p{Script=Greek}`, or its negation with `!=`. -/
  | byValue (property value : String) (notEqual : Bool)
deriving Repr, DecidableEq

/-- A character as written. `hexByte` says it was written as a two-digit `\x` escape, which
stands for a byte rather than a character when Unicode is off. -/
structure Literal where
  /-- The character. -/
  char : Char
  /-- Whether it was written as a two-digit hexadecimal escape. -/
  hexByte : Bool
deriving Repr, DecidableEq

/-- Zero-width assertions. -/
inductive Assertion where
  /-- `^` -/
  | startLine
  /-- `$` -/
  | endLine
  /-- `\A` -/
  | startText
  /-- `\z` -/
  | endText
  /-- `\b` -/
  | wordBoundary
  /-- `\B` -/
  | notWordBoundary
  /-- `\b{start}` and `\<` -/
  | wordStart
  /-- `\b{end}` and `\>` -/
  | wordEnd
  /-- `\b{start-half}` -/
  | wordStartHalf
  /-- `\b{end-half}` -/
  | wordEndHalf
deriving Repr, DecidableEq

/-- Operations between the sets of a bracketed class. -/
inductive SetOp where
  /-- `&&` -/
  | intersection
  /-- `--` -/
  | difference
  /-- `~~` -/
  | symmetricDifference
deriving Repr, DecidableEq

/-- How often a repetition repeats, as written. -/
inductive RepetitionRange where
  /-- `?` -/
  | zeroOrOne
  /-- `*` -/
  | zeroOrMore
  /-- `+` -/
  | oneOrMore
  /-- `{n}` -/
  | exactly (n : Nat)
  /-- `{n,}` -/
  | atLeast (n : Nat)
  /-- `{n,m}` -/
  | bounded (n m : Nat)
deriving Repr, DecidableEq

/-- The least and most number of times a repetition range allows (`none`: no most). -/
def RepetitionRange.bounds : RepetitionRange → Nat × Option Nat
  | .zeroOrOne => (0, some 1)
  | .zeroOrMore => (0, none)
  | .oneOrMore => (1, none)
  | .exactly n => (n, some n)
  | .atLeast n => (n, none)
  | .bounded n m => (n, some m)

mutual

/-- An item of a bracketed class. -/
inductive ClassItem where
  /-- Nothing: an operand of a set operation left empty. -/
  | empty
  /-- One character. -/
  | literal (l : Literal)
  /-- The characters from `lo` to `hi`. -/
  | range (lo hi : Literal)
  /-- An ASCII class, negated with `[:^name:]`. -/
  | ascii (cls : AsciiClass) (negated : Bool)
  /-- A `\p` class, negated with `\P`. -/
  | property (query : PropertyQuery) (negated : Bool)
  /-- `\d`, `\s` or `\w`, negated when written in upper case. -/
  | perl (cls : PerlClass) (negated : Bool)
  /-- A nested bracketed class. -/
  | bracketed (negated : Bool) (set : ClassSet)
  /-- Two or more items side by side. -/
  | union (items : List ClassItem)

/-- The contents of a bracketed class: an item, or a set operation. -/
inductive ClassSet where
  /-- One item of a class. -/
  | item (i : ClassItem)
  /-- Two sets joined by intersection, difference or symmetric difference. -/
  | op (kind : SetOp) (lhs rhs : ClassSet)

end

deriving instance Repr for ClassItem, ClassSet

/-- A regular expression as written. -/
inductive Ast where
  /-- Nothing. -/
  | empty
  /-- Flags set for the rest of the enclosing group. -/
  | flags (items : FlagItems)
  /-- One character. -/
  | literal (l : Literal)
  /-- `.` -/
  | dot
  /-- A zero-width assertion. -/
  | assertion (a : Assertion)
  /-- A `\p` class. -/
  | property (query : PropertyQuery) (negated : Bool)
  /-- `\d`, `\s` or `\w`. -/
  | perl (cls : PerlClass) (negated : Bool)
  /-- A bracketed class. -/
  | bracketed (negated : Bool) (set : ClassSet)
  /-- A repetition, greedy unless marked with a `?`. -/
  | repetition (range : RepetitionRange) (greedy : Bool) (sub : Ast)
  /-- A group: capturing or not, with the flags written in it. -/
  | group (capturing : Bool) (flags : FlagItems) (sub : Ast)
  /-- Two or more alternatives. -/
  | alternation (alternatives : List Ast)
  /-- Two or more parts one after the other. -/
  | concat (parts : List Ast)
deriving Repr

/-- The most levels of nesting a pattern may have. -/
def nestLimit : Nat := 250

mutual

/-- The levels of nesting of a class item. -/
def ClassItem.depth : ClassItem → Nat
  | .bracketed _ set => set.depth + 1
  | .union items => ClassItem.depthList items + 1
  | _ => 0

/-- The deepest nesting of class items. -/
def ClassItem.depthList : List ClassItem → Nat
  | [] => 0
  | i :: rest => max i.depth (ClassItem.depthList rest)

/-- The levels of nesting of the contents of a bracketed class. -/
def ClassSet.depth : ClassSet → Nat
  | .item i => i.depth
  | .op _ lhs rhs => max lhs.depth rhs.depth + 1

end

mutual

/-- The levels of nesting of a syntax tree. -/
def Ast.depth : Ast → Nat
  | .bracketed _ set => set.depth + 1
  | .repetition _ _ sub => sub.depth + 1
  | .group _ _ sub => sub.depth + 1
  | .alternation alts => Ast.depthList alts + 1
  | .concat parts => Ast.depthList parts + 1
  | _ => 0

/-- The deepest nesting of syntax trees. -/
def Ast.depthList : List Ast → Nat
  | [] => 0
  | a :: rest => max a.depth (Ast.depthList rest)

end

example : (Ast.repetition .zeroOrMore true (.repetition .zeroOrMore true (.literal ⟨'a', false⟩))).depth = 2 :=
  rfl

end ConceptQuery.Regex
