import ConceptQuery.Regex.Ast
import ConceptQuery.Regex.Pattern
import ConceptQuery.Regex.Property

/-!
# From syntax to meaning

`Ast.toPattern` gives a syntax tree its meaning under the flags. Flags take effect where they are
written and hold to the end of the enclosing group, across `|` too; a group with flags sets them
for its contents only.

* **Case.** Under `i` a character stands for all characters the same up to simple case folding, and
  so does each bracketed class and `\p` class (folded before it is negated); the Perl classes are
  left as they are.
* **Unicode off** (`-u`): `\d`, `\s`, `\w` and word boundaries are those of ASCII and case folding
  is that of ASCII letters. Whatever could match part of a character is refused: `.`, a negated
  Perl class, a negated bracketed class, `\B`, and `\xNN` above `\x7F`; so are `\p` classes and
  characters beyond ASCII in classes.
* **Lines.** `.` matches any character but a line feed (nor a carriage return under `R`), and any
  at all under `s`; under `m`, `^` and `$` match at the starts and ends of lines.
* **Greed.** Under `U`, repetitions marked lazy are greedy and the others lazy.
-/

namespace ConceptQuery.Regex

/-- The flags in force. -/
structure Flags where
  /-- `i`: letters match either case. -/
  caseInsensitive : Bool := false
  /-- `m`: `^` and `$` match at line ends too. -/
  multiLine : Bool := false
  /-- `s`: `.` matches a line break too. -/
  dotMatchesNewLine : Bool := false
  /-- `U`: repetitions are lazy unless marked otherwise. -/
  swapGreed : Bool := false
  /-- `u`: classes and case folding cover Unicode. -/
  unicode : Bool := true
  /-- `R`: a line ends at `\r\n` as well as at `\n`. -/
  crlf : Bool := false

/-- The flags after flag items are applied: those the items name are set, the others kept. -/
def Flags.apply (f : Flags) (items : FlagItems) : Flags :=
  let get (flag : Flag) (old : Bool) : Bool := (items.setting flag).getD old
  { caseInsensitive := get .caseInsensitive f.caseInsensitive
    multiLine := get .multiLine f.multiLine
    dotMatchesNewLine := get .dotMatchesNewLine f.dotMatchesNewLine
    swapGreed := get .swapGreed f.swapGreed
    unicode := get .unicode f.unicode
    crlf := get .crlf f.crlf }

/-- The bytes, as code points. -/
def allBytes : CharSet := CharSet.range 0 0xFF

/-- Fold and negate a set of a bracketed class, a `\p` class or an ASCII class under the flags.
Without Unicode the set is one of bytes, negated among bytes, and must stay within ASCII. -/
def foldAndNegate (flags : Flags) (negated : Bool) (s : CharSet) : Except RegexError CharSet :=
  if flags.unicode then
    let s := if flags.caseInsensitive then s.caseFold else s
    .ok (if negated then s.complement else s)
  else
    let s := if flags.caseInsensitive then s.asciiCaseFold else s
    let s := if negated then allBytes.diff s else s
    if s.isAscii then .ok s else .error .invalidUtf8

/-- The characters of a `\p` class. -/
def propertySet (flags : Flags) (query : PropertyQuery) (negated : Bool) :
    Except RegexError CharSet := do
  if !flags.unicode then throw .unicodeNotAllowed
  let s ← query.resolve
  foldAndNegate flags (negated != query.notEqual) s

/-- The characters of a Perl class, never folded. -/
def perlSet (flags : Flags) (cls : PerlClass) (negated : Bool) : Except RegexError CharSet :=
  if flags.unicode then .ok (if negated then cls.unicodeSet.complement else cls.unicodeSet)
  else
    let s := if negated then allBytes.diff cls.asciiSet else cls.asciiSet
    if s.isAscii then .ok s else .error .invalidUtf8

/-- A character of a class as a set; without Unicode it must be ASCII. -/
def classChar (flags : Flags) (l : Literal) : Except RegexError Nat :=
  if flags.unicode || l.char.toNat ≤ 0x7F then .ok l.char.toNat
  else if l.hexByte then .error .invalidUtf8
  else .error .unicodeNotAllowed

mutual

/-- The characters of a class item. -/
def ClassItem.toSet (flags : Flags) : ClassItem → Except RegexError CharSet
  | .empty => .ok CharSet.empty
  | .literal l => do
    let c ← classChar flags l
    pure (CharSet.range c c)
  | .range lo hi => do
    let a ← classChar flags lo
    let b ← classChar flags hi
    pure (CharSet.range a b)
  | .ascii cls negated => foldAndNegate flags negated cls.set
  | .property query negated => propertySet flags query negated
  | .perl cls negated => perlSet flags cls negated
  | .bracketed negated set => do foldAndNegate flags negated (← set.toSet flags)
  | .union items => ClassItem.toSetUnion flags items

/-- The characters of the items of a union. -/
def ClassItem.toSetUnion (flags : Flags) : List ClassItem → Except RegexError CharSet
  | [] => .ok CharSet.empty
  | i :: rest => do
    let s ← i.toSet flags
    let t ← ClassItem.toSetUnion flags rest
    pure (s.union t)

/-- The characters of the contents of a bracketed class. Under `i` both sides of a set operation
are folded first. -/
def ClassSet.toSet (flags : Flags) : ClassSet → Except RegexError CharSet
  | .item i => i.toSet flags
  | .op kind lhs rhs => do
    let l ← lhs.toSet flags
    let r ← rhs.toSet flags
    let fold := fun (s : CharSet) =>
      if !flags.caseInsensitive then s
      else if flags.unicode then s.caseFold
      else s.asciiCaseFold
    let (l, r) := (fold l, fold r)
    pure <| match kind with
      | .intersection => l.inter r
      | .difference => l.diff r
      | .symmetricDifference => l.symmDiff r

end

/-- The pattern of a character. -/
def literalPattern (flags : Flags) (l : Literal) : Except RegexError Pattern :=
  let single := CharSet.single l.char
  if flags.unicode then
    .ok (.chars (if flags.caseInsensitive then single.caseFold else single))
  else if l.hexByte && l.char.toNat > 0x7F then .error .invalidUtf8
  else if flags.caseInsensitive && l.char.toNat ≤ 0x7F then .ok (.chars single.asciiCaseFold)
  else .ok (.chars single)

/-- The pattern of `.`. -/
def dotPattern (flags : Flags) : Except RegexError Pattern :=
  if !flags.unicode then .error .invalidUtf8
  else if flags.dotMatchesNewLine then .ok (.chars CharSet.full)
  else if flags.crlf then .ok (.chars (CharSet.full.diff (CharSet.ofRanges [(0x0A, 0x0A), (0x0D, 0x0D)])))
  else .ok (.chars (CharSet.full.diff (CharSet.range 0x0A 0x0A)))

/-- The pattern of an assertion. -/
def assertionPattern (flags : Flags) : Assertion → Except RegexError Pattern
  | .startLine => .ok (.look (if flags.multiLine then .lineStart flags.crlf else .textStart))
  | .endLine => .ok (.look (if flags.multiLine then .lineEnd flags.crlf else .textEnd))
  | .startText => .ok (.look .textStart)
  | .endText => .ok (.look .textEnd)
  | .wordBoundary => .ok (.look (.word .boundary flags.unicode))
  | .notWordBoundary =>
    if flags.unicode then .ok (.look (.word .notBoundary true)) else .error .invalidUtf8
  | .wordStart => .ok (.look (.word .start flags.unicode))
  | .wordEnd => .ok (.look (.word .finish flags.unicode))
  | .wordStartHalf => .ok (.look (.word .startHalf flags.unicode))
  | .wordEndHalf => .ok (.look (.word .finishHalf flags.unicode))

mutual

/-- The meaning of a syntax tree under the flags, with the flags in force after it. -/
def Ast.toPatternWith (flags : Flags) : Ast → Except RegexError (Pattern × Flags)
  | .empty => .ok (.empty, flags)
  | .flags items => .ok (.empty, flags.apply items)
  | .literal l => do pure (← literalPattern flags l, flags)
  | .dot => do pure (← dotPattern flags, flags)
  | .assertion a => do pure (← assertionPattern flags a, flags)
  | .property query negated => do pure (.chars (← propertySet flags query negated), flags)
  | .perl cls negated => do pure (.chars (← perlSet flags cls negated), flags)
  | .bracketed negated set => do
    pure (.chars (← foldAndNegate flags negated (← set.toSet flags)), flags)
  | .repetition range greedy sub => do
    let (p, _) ← sub.toPatternWith flags
    let (min, max) := range.bounds
    pure (Pattern.repeat min max (if flags.swapGreed then !greedy else greedy) p, flags)
  | .group capturing items sub => do
    let (p, _) ← sub.toPatternWith (flags.apply items)
    pure (if capturing then .capture p else p, flags)
  | .alternation alts => do
    let (ps, after) ← Ast.toPatternsWith flags alts
    pure (.alternation ps, after)
  | .concat parts => do
    let (ps, after) ← Ast.toPatternsWith flags parts
    pure (.concat ps, after)

/-- The meanings of syntax trees one after the other, the flags carried from each to the next. -/
def Ast.toPatternsWith (flags : Flags) : List Ast → Except RegexError (List Pattern × Flags)
  | [] => .ok ([], flags)
  | a :: rest => do
    let (p, flags) ← a.toPatternWith flags
    let (ps, flags) ← Ast.toPatternsWith flags rest
    pure (p :: ps, flags)

end

/-- The meaning of a syntax tree, from the default flags: case sensitive, Unicode on, `.` not
matching line feeds, `^` and `$` at the ends of the text, repetitions greedy. -/
def Ast.toPattern (a : Ast) : Except RegexError Pattern :=
  (a.toPatternWith {}).map (·.1)

end ConceptQuery.Regex
