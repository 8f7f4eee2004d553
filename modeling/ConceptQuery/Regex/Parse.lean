import ConceptQuery.Regex.Ast
import ConceptQuery.Regex.Error
import ConceptQuery.Unicode.RangeText
import ConceptQuery.Text.Blank
import ConceptQuery.Text.Alphanumeric

/-!
# Reading patterns

`Ast.parse` reads a pattern into its syntax tree, or names the first thing that keeps it from being
well formed. The grammar:

* a pattern is alternatives separated by `|`, each a sequence of items;
* an item is a character, an escape, `.`, `^`, `$`, a bracketed class, a group, or flags `(?imsUuxR-imsUuxR)`,
  and any item but flags may be followed by `?`, `*`, `+` or a count `{n}`, `{n,}`, `{n,m}`, each
  made lazy by a further `?`;
* a group is `( )`, `(?: )` with flags before the colon, or a named group `(?P<name> )` or
  `(?<name> )`; names start with a letter or `_`, go on with letters, digits, `_`, `.`, `[` or `]`,
  and are used once;
* a bracketed class `[ ]` may be negated with `^`, starts with any number of `-` and then a `]`
  taken as characters, and holds characters, ranges `a-z`, escapes, nested classes, ASCII classes
  `[:alpha:]` or `[:^alpha:]` (only inside another class), and the set operations `&&`, `--`, `~~`,
  which group to the left.

**Whitespace.** Under the `x` flag whitespace is passed over and `#` starts a comment that runs to
the end of its line, inside classes too; the flag holds to the end of the group it is set in.
Counts pass over whitespace around their digits even without the flag, so `a{2, 3}` is read, but
`a{ 1 , }` is not: after the comma only a `}` or digits may follow.
-/

namespace ConceptQuery.Regex

/-- The state of reading a pattern. -/
structure Reader where
  /-- What is left of the pattern. -/
  rest : List Char
  /-- Whether whitespace and comments are passed over (the `x` flag). -/
  verbose : Bool
  /-- The names of the groups so far. -/
  names : List String

/-- Reading a pattern: a step that reads some of it, or fails with a cause. -/
abbrev ReadM := StateT Reader (Except RegexError)

/-- What an escape or a single character stands for, before it is placed in a sequence or a
class. -/
inductive Primitive where
  /-- A literal character. -/
  | literal (l : Literal)
  /-- An assertion about the place. -/
  | assertion (a : Assertion)
  /-- Any character. -/
  | dot
  /-- A Perl class, as `\d`, or its negation. -/
  | perl (cls : PerlClass) (negated : Bool)
  /-- A Unicode property class, as `\pL`, or its negation. -/
  | property (query : PropertyQuery) (negated : Bool)

namespace Primitive

/-- The syntax tree of a primitive in a sequence. -/
def toAst : Primitive → Ast
  | .literal l => .literal l
  | .assertion a => .assertion a
  | .dot => .dot
  | .perl cls negated => .perl cls negated
  | .property query negated => .property query negated

/-- A primitive as an item of a class: assertions and the dot are none. -/
def toClassItem : Primitive → Except RegexError ClassItem
  | .literal l => .ok (.literal l)
  | .perl cls negated => .ok (.perl cls negated)
  | .property query negated => .ok (.property query negated)
  | _ => .error .classEscapeInvalid

/-- A primitive as the end of a range: a single character only. -/
def toRangeEnd : Primitive → Except RegexError Literal
  | .literal l => .ok l
  | _ => .error .classRangeLiteral

end Primitive

namespace Reader

/-- Drop whitespace and `#` comments, a comment running to the end of its line. -/
def dropBlanks (inComment : Bool) : List Char → List Char
  | [] => []
  | c :: rest =>
    if inComment then dropBlanks (c != '\n') rest
    else if Text.isBlank c then dropBlanks false rest
    else if c == '#' then dropBlanks true rest
    else c :: rest

/-- The first character of `cs` that is not whitespace and not the `#` opening a comment; a `#`
inside a comment, or any other character there, is returned. -/
def firstPastBlanks (inComment : Bool) : List Char → Option Char
  | [] => none
  | c :: rest =>
    if Text.isBlank c then firstPastBlanks inComment rest
    else if !inComment && c == '#' then firstPastBlanks true rest
    else some c

/-- The character after the current one; with whitespace ignored, the next one that counts, or
else the very next one. -/
def peekPast (verbose : Bool) : List Char → Option Char
  | [] => none
  | _ :: after =>
    if verbose then (firstPastBlanks false after).orElse fun _ => after.head? else after.head?

/-- The current character. -/
def current : ReadM (Option Char) := do return (← get).rest.head?

/-- Whether the pattern is used up. -/
def atEnd : ReadM Bool := do return (← get).rest.isEmpty

/-- Step over the current character; whether a character is left. -/
def bump : ReadM Bool := do
  let r ← get
  let rest := r.rest.drop 1
  set { r with rest := rest }
  return !rest.isEmpty

/-- Pass over whitespace and comments, when they are ignored. -/
def skipSpace : ReadM Unit :=
  modify fun r => if r.verbose then { r with rest := dropBlanks false r.rest } else r

/-- Step over the current character and the whitespace after it; whether a character is left. -/
def bumpSkip : ReadM Bool := do
  if !(← bump) then return false
  skipSpace
  return !(← atEnd)

/-- Step over a prefix, if what is left starts with it. -/
def bumpIf (pre : String) : ReadM Bool := do
  let r ← get
  if pre.toList.isPrefixOf r.rest then
    set { r with rest := r.rest.drop pre.length }
    return true
  else return false

/-- The character right after the current one. -/
def peek : ReadM (Option Char) := do return ((← get).rest.drop 1).head?

/-- The character after the current one, whitespace passed over when it is ignored. -/
def peekSpace : ReadM (Option Char) := do
  let r ← get
  return peekPast r.verbose r.rest

/-- How many more steps reading can take at most: one per character left, and one more. -/
def budget : ReadM Nat := do return (← get).rest.length + 1

/-- A Unicode scalar value, if the number is one. -/
def scalar? (n : Nat) : Option Char :=
  if n < 0xD800 || (0xE000 ≤ n && n ≤ 0x10FFFF) then some (Char.ofNat n) else none

/-- Read `n` hexadecimal digits, the first at the current character. -/
def readHexDigits : Nat → Bool → List Char → ReadM (List Char)
  | 0, _, acc => return acc
  | n + 1, first, acc => do
    if !first then
      if !(← bumpSkip) then throw .escapeUnexpectedEnd
    let some c ← current | throw .escapeUnexpectedEnd
    if (Unicode.hexDigit? c).isNone then throw .escapeHexInvalidDigit
    readHexDigits n false (acc ++ [c])

/-- Read hexadecimal digits up to a `}`, from the character after the current one. -/
def readHexBraced : Nat → List Char → ReadM (List Char)
  | 0, acc => return acc
  | fuel + 1, acc => do
    if !(← bumpSkip) then return acc
    let some c ← current | return acc
    if c == '}' then return acc
    if (Unicode.hexDigit? c).isNone then throw .escapeHexInvalidDigit
    readHexBraced fuel (acc ++ [c])

/-- Read a hexadecimal escape at its `x`, `u` or `U`: a fixed number of digits (two, four or eight),
or any number of them in braces. -/
def readHex (kind : Char) : ReadM Literal := do
  if !(← bumpSkip) then throw .escapeUnexpectedEnd
  if (← current) == some '{' then
    let digits ← readHexBraced (← budget) []
    if (← atEnd) then throw .escapeUnexpectedEnd
    _ ← bumpSkip
    if digits.isEmpty then throw .escapeHexEmpty
    match (Unicode.hexValue? digits).bind scalar? with
    | some c => return ⟨c, false⟩
    | none => throw .escapeHexInvalid
  else
    let count := if kind == 'x' then 2 else if kind == 'u' then 4 else 8
    let digits ← readHexDigits count true []
    _ ← bumpSkip
    match (Unicode.hexValue? digits).bind scalar? with
    | some c => return ⟨c, kind == 'x'⟩
    | none => throw .escapeHexInvalid

/-- Read characters up to a `}`, from the character after the current one. -/
def readBraced : Nat → List Char → ReadM (List Char)
  | 0, acc => return acc
  | fuel + 1, acc => do
    if !(← bumpSkip) then return acc
    let some c ← current | return acc
    if c == '}' then return acc
    readBraced fuel (acc ++ [c])

/-- Split a list of characters at the first occurrence of a separator. -/
def splitAtFirst (sep : List Char) : List Char → Option (List Char × List Char)
  | [] => none
  | c :: rest =>
    if sep.isPrefixOf (c :: rest) then some ([], (c :: rest).drop sep.length)
    else (splitAtFirst sep rest).map fun (before, after) => (c :: before, after)

/-- The query written in braces after `\p`: `name!=value`, `name:value`, `name=value` (looked for
in this order), or a name alone. -/
def queryOf (text : List Char) : PropertyQuery :=
  match splitAtFirst ['!', '='] text with
  | some (name, value) => .byValue (String.ofList name) (String.ofList value) true
  | none =>
    match splitAtFirst [':'] text with
    | some (name, value) => .byValue (String.ofList name) (String.ofList value) false
    | none =>
      match splitAtFirst ['='] text with
      | some (name, value) => .byValue (String.ofList name) (String.ofList value) false
      | none => .named (String.ofList text)

/-- Read a `\p` or `\P` class at its letter. -/
def readProperty (negated : Bool) : ReadM Primitive := do
  if !(← bumpSkip) then throw .escapeUnexpectedEnd
  if (← current) == some '{' then
    let text ← readBraced (← budget) []
    if (← atEnd) then throw .escapeUnexpectedEnd
    _ ← bump
    return .property (queryOf text) negated
  else
    let some c ← current | throw .escapeUnexpectedEnd
    if c == '\\' then throw .propertyClassInvalid
    _ ← bumpSkip
    return .property (.letter c) negated

/-- Whether a character may stand in the name of a special word boundary. -/
def isBoundaryNameChar (c : Char) : Bool :=
  ('a' ≤ c && c ≤ 'z') || ('A' ≤ c && c ≤ 'Z') || c == '-'

/-- Read the characters of a special word boundary's name. -/
def readBoundaryName : Nat → List Char → ReadM (List Char)
  | 0, acc => return acc
  | fuel + 1, acc => do
    match ← current with
    | some c =>
      if isBoundaryNameChar c then
        _ ← bumpSkip
        readBoundaryName fuel (acc ++ [c])
      else return acc
    | none => return acc

/-- After `\b`, at a `{`: read a special word boundary `\b{start}`, `\b{end}`, `\b{start-half}` or
`\b{end-half}`. If no name can start here, nothing is read, and the `{` opens a count. -/
def readSpecialBoundary : ReadM (Option Assertion) := do
  let saved ← get
  if !(← bumpSkip) then throw .wordBoundaryUnexpectedEnd
  match ← current with
  | some c =>
    if !isBoundaryNameChar c then
      set saved
      return none
  | none => pure ()
  let name ← readBoundaryName (← budget) []
  if (← current) != some '}' then throw .wordBoundaryUnclosed
  _ ← bump
  match String.ofList name with
  | "start" => return some .wordStart
  | "end" => return some .wordEnd
  | "start-half" => return some .wordStartHalf
  | "end-half" => return some .wordEndHalf
  | _ => throw .wordBoundaryUnrecognized

/-- The characters that have a meaning of their own in a pattern. -/
def isMeta (c : Char) : Bool := "\\.+*?()|[]\x7b\x7d^$#&-~".toList.contains c

/-- The characters that may be escaped to stand for themselves: the meta characters and every
ASCII character but letters, digits, `<` and `>`. -/
def isEscapable (c : Char) : Bool :=
  isMeta c ||
    (c.toNat < 0x80 && !c.isAlphanum && c != '<' && c != '>')

/-- Read an escape at its backslash. -/
def readEscape : ReadM Primitive := do
  if !(← bump) then throw .escapeUnexpectedEnd
  let some c ← current | throw .escapeUnexpectedEnd
  if c.isDigit then throw .backreference
  if c == 'x' || c == 'u' || c == 'U' then return .literal (← readHex c)
  if c == 'p' || c == 'P' then return ← readProperty (c == 'P')
  let perl : Option PerlClass :=
    if c == 'd' || c == 'D' then some .digit
    else if c == 's' || c == 'S' then some .space
    else if c == 'w' || c == 'W' then some .word
    else none
  if let some cls := perl then
    _ ← bump
    return .perl cls c.isUpper
  _ ← bump
  if isEscapable c then return .literal ⟨c, false⟩
  match c with
  | 'a' => return .literal ⟨'\x07', false⟩
  | 'f' => return .literal ⟨'\x0C', false⟩
  | 't' => return .literal ⟨'\t', false⟩
  | 'n' => return .literal ⟨'\n', false⟩
  | 'r' => return .literal ⟨'\r', false⟩
  | 'v' => return .literal ⟨'\x0B', false⟩
  | 'A' => return .assertion .startText
  | 'z' => return .assertion .endText
  | 'b' =>
    if (← current) == some '{' then
      match ← readSpecialBoundary with
      | some a => return .assertion a
      | none => return .assertion .wordBoundary
    else return .assertion .wordBoundary
  | 'B' => return .assertion .notWordBoundary
  | '<' => return .assertion .wordStart
  | '>' => return .assertion .wordEnd
  | _ => throw .escapeUnrecognized

/-- Read a primitive of a sequence at its first character. -/
def readPrimitive : ReadM Primitive := do
  match ← current with
  | some '\\' => readEscape
  | some '.' => _ ← bump; return .dot
  | some '^' => _ ← bump; return .assertion .startLine
  | some '$' => _ ← bump; return .assertion .endLine
  | some c => _ ← bump; return .literal ⟨c, false⟩
  | none => throw .escapeUnexpectedEnd

/-- Read a primitive of a class at its first character: an escape, or any character. -/
def readClassPrimitive : ReadM Primitive := do
  match ← current with
  | some '\\' => readEscape
  | some c => _ ← bump; return .literal ⟨c, false⟩
  | none => throw .classUnclosed

/-- Read an item of a class: a primitive, or a range of two characters. A `-` before a `]` or
another `-` stands for itself. -/
def readClassRange : ReadM ClassItem := do
  let first ← readClassPrimitive
  skipSpace
  if (← atEnd) then throw .classUnclosed
  let next ← peekSpace
  if (← current) != some '-' || next == some ']' || next == some '-' then
    return ← liftM first.toClassItem
  if !(← bumpSkip) then throw .classUnclosed
  let second ← readClassPrimitive
  let lo ← liftM first.toRangeEnd
  let hi ← liftM second.toRangeEnd
  if lo.char > hi.char then throw .classRangeInvalid
  return .range lo hi
where
  liftM {α : Type} : Except RegexError α → ReadM α
    | .ok a => pure a
    | .error e => throw e

/-- The ASCII class names. -/
def asciiClassOf : String → Option AsciiClass
  | "alnum" => some .alnum
  | "alpha" => some .alpha
  | "ascii" => some .ascii
  | "blank" => some .blank
  | "cntrl" => some .cntrl
  | "digit" => some .digit
  | "graph" => some .graph
  | "lower" => some .lower
  | "print" => some .print
  | "punct" => some .punct
  | "space" => some .space
  | "upper" => some .upper
  | "word" => some .word
  | "xdigit" => some .xdigit
  | _ => none

/-- An ASCII class `[:name:]` or `[:^name:]` at the start of `cs`, with what follows it. -/
def asciiClassAt (cs : List Char) : Option (AsciiClass × Bool × List Char) :=
  match cs with
  | '[' :: ':' :: rest =>
    let (negated, rest) := match rest with
      | '^' :: more => (true, more)
      | _ => (false, rest)
    let name := rest.takeWhile (· != ':')
    match rest.drop name.length with
    | ':' :: ']' :: after =>
      (asciiClassOf (String.ofList name)).map fun cls => (cls, negated, after)
    | _ => none
  | _ => none

/-- Read the `-`s that open a class and stand for themselves. -/
def readDashes : Nat → List ClassItem → ReadM (List ClassItem)
  | 0, acc => return acc
  | fuel + 1, acc => do
    if (← current) != some '-' then return acc
    if !(← bumpSkip) then throw .classUnclosed
    readDashes fuel (acc ++ [.literal ⟨'-', false⟩])

/-- Read the opening of a bracketed class at its `[`: whether it is negated, and the leading `-`s
and `]` that stand for themselves. -/
def readClassOpen : ReadM (Bool × List ClassItem) := do
  if !(← bumpSkip) then throw .classUnclosed
  let negated ← if (← current) == some '^' then do
      if !(← bumpSkip) then throw .classUnclosed
      pure true
    else pure false
  let dashes ← readDashes (← budget) []
  if dashes.isEmpty && (← current) == some ']' then
    if !(← bumpSkip) then throw .classUnclosed
    return (negated, [.literal ⟨']', false⟩])
  return (negated, dashes)

/-- The items of a union, as one item. -/
def unionOf : List ClassItem → ClassItem
  | [] => .empty
  | [i] => i
  | items => .union items

/-- Close the current union (items last first), as the right side of a pending operation if there
is one. -/
def closeSet (pending : Option (SetOp × ClassSet)) (items : List ClassItem) : ClassSet :=
  let s := ClassSet.item (unionOf items.reverse)
  match pending with
  | none => s
  | some (op, lhs) => .op op lhs s

/-- Read a bracketed class after its opening, up to and including its `]`. `pending` holds a set
operation waiting for its right side, `items` the items of the current union, last first. -/
def readClassBody : Nat → Option (SetOp × ClassSet) → List ClassItem → ReadM ClassSet
  | 0, _, _ => throw .classUnclosed
  | fuel + 1, pending, items => do
    skipSpace
    match ← current with
    | none => throw .classUnclosed
    | some '[' =>
      match asciiClassAt (← get).rest with
      | some (cls, negated, after) =>
        modify fun r => { r with rest := after }
        readClassBody fuel pending (.ascii cls negated :: items)
      | none =>
        let (negated, opening) ← readClassOpen
        let inner ← readClassBody fuel none opening.reverse
        readClassBody fuel pending (.bracketed negated inner :: items)
    | some ']' =>
      _ ← bump
      return closeSet pending items
    | some c =>
      let op : Option SetOp :=
        if c == '&' then some .intersection
        else if c == '-' then some .difference
        else if c == '~' then some .symmetricDifference
        else none
      match op with
      | some kind =>
        if (← peek) == some c then
          _ ← bumpIf (String.ofList [c, c])
          readClassBody fuel (some (kind, closeSet pending items)) []
        else
          let item ← readClassRange
          readClassBody fuel pending (item :: items)
      | none =>
        let item ← readClassRange
        readClassBody fuel pending (item :: items)

/-- Read a bracketed class at its `[`. -/
def readClass : ReadM Ast := do
  let fuel ← budget
  let (negated, opening) ← readClassOpen
  let set ← readClassBody fuel none opening.reverse
  return .bracketed negated set

/-- The flag of a flag letter. -/
def flagOf : Char → Option Flag
  | 'i' => some .caseInsensitive
  | 'm' => some .multiLine
  | 's' => some .dotMatchesNewLine
  | 'U' => some .swapGreed
  | 'u' => some .unicode
  | 'R' => some .crlf
  | 'x' => some .ignoreWhitespace
  | _ => none

/-- Read flags up to a `:` or `)`. `negated` says a `-` has been read, `last` that it was the last
thing read. -/
def readFlags : Nat → FlagItems → Bool → Bool → ReadM FlagItems
  | 0, _, _, _ => throw .flagUnexpectedEnd
  | fuel + 1, items, negated, last => do
    match ← current with
    | none => throw .flagUnexpectedEnd
    | some c =>
      if c == ':' || c == ')' then
        if last then throw .flagDanglingNegation
        return items
      else if c == '-' then
        if negated then throw .flagRepeatedNegation
        if !(← bump) then throw .flagUnexpectedEnd
        readFlags fuel items true true
      else
        let some f := flagOf c | throw .flagUnrecognized
        if items.any (·.1 == f) then throw .flagDuplicate
        if !(← bump) then throw .flagUnexpectedEnd
        readFlags fuel (items ++ [(f, !negated)]) negated false

/-- Whether a character may stand in a group name, first or later. -/
def isNameChar (c : Char) (first : Bool) : Bool :=
  if first then c == '_' || Text.isAlphabetic c
  else c == '_' || c == '.' || c == '[' || c == ']' || Text.isAlphanumeric c

/-- Read the characters of a group name up to its `>`. -/
def readNameChars : Nat → List Char → ReadM (List Char)
  | 0, acc => return acc
  | fuel + 1, acc => do
    match ← current with
    | none => return acc
    | some c =>
      if c == '>' then return acc
      if !isNameChar c acc.isEmpty then throw .groupNameInvalid
      if !(← bump) then return acc ++ [c]
      readNameChars fuel (acc ++ [c])

/-- Read a group name and its `>`; the name must be new. -/
def readGroupName : ReadM String := do
  if (← atEnd) then throw .groupNameUnexpectedEnd
  let chars ← readNameChars (← budget) []
  if (← atEnd) then throw .groupNameUnexpectedEnd
  _ ← bump
  if chars.isEmpty then throw .groupNameEmpty
  let name := String.ofList chars
  if (← get).names.contains name then throw .groupNameDuplicate
  modify fun r => { r with names := r.names ++ [name] }
  return name

/-- Read the digits of a count and the whitespace around them. -/
def readDigits : Nat → List Char → ReadM (List Char)
  | 0, acc => return acc
  | fuel + 1, acc => do
    match ← current with
    | some c =>
      if c.isDigit then
        _ ← bumpSkip
        readDigits fuel (acc ++ [c])
      else return acc
    | none => return acc

/-- Pass over whitespace after the digits of a count. -/
def skipCountSpace : Nat → ReadM Unit
  | 0 => return
  | fuel + 1 => do
    match ← current with
    | some c =>
      if Text.isBlank c then
        _ ← bumpSkip
        skipCountSpace fuel
    | none => return

/-- Read a count: digits with whitespace around them, at most `2^32 - 1`. -/
def readDecimal : ReadM Nat := do
  modify fun r => { r with rest := r.rest.dropWhile Text.isBlank }
  let digits ← readDigits (← budget) []
  skipCountSpace (← budget)
  if digits.isEmpty then throw .decimalEmpty
  let n := digits.foldl (fun acc d => 10 * acc + (d.toNat - '0'.toNat)) 0
  if n > 4294967295 then throw .decimalInvalid
  return n

/-- The last item of a sequence (items last first), if it may be repeated. -/
def repeatable : List Ast → Except RegexError Ast
  | [] => .error .repetitionMissing
  | .flags _ :: _ => .error .repetitionMissing
  | x :: _ => .ok x

/-- Read `?`, `*` or `+` and make the last item a repetition. -/
def readUncounted (range : RepetitionRange) (items : List Ast) : ReadM (List Ast) := do
  let sub ← match repeatable items with
    | .ok x => pure x
    | .error e => throw e
  let more ← bump
  let greedy ← if more && (← current) == some '?' then do
      _ ← bump
      pure false
    else pure true
  return .repetition range greedy sub :: items.drop 1

/-- Read a count `{n}`, `{n,}` or `{n,m}` and make the last item a repetition. -/
def readCounted (items : List Ast) : ReadM (List Ast) := do
  let sub ← match repeatable items with
    | .ok x => pure x
    | .error e => throw e
  if !(← bumpSkip) then throw .repetitionCountUnclosed
  let lo ← readDecimal
  if (← atEnd) then throw .repetitionCountUnclosed
  let range ← if (← current) == some ',' then do
      if !(← bumpSkip) then throw .repetitionCountUnclosed
      if (← current) != some '}' then pure (RepetitionRange.bounded lo (← readDecimal))
      else pure (RepetitionRange.atLeast lo)
    else pure (RepetitionRange.exactly lo)
  if (← current) != some '}' then throw .repetitionCountUnclosed
  let more ← bumpSkip
  let greedy ← if more && (← current) == some '?' then do
      _ ← bump
      pure false
    else pure true
  if let .bounded a b := range then
    if a > b then throw .repetitionCountInvalid
  return .repetition range greedy sub :: items.drop 1

/-- The parts of a sequence (last first) as one tree. -/
def concatOf (items : List Ast) : Ast :=
  match items.reverse with
  | [] => .empty
  | [x] => x
  | xs => .concat xs

mutual

/-- Read alternatives up to a `)` or the end of the pattern, which is left to the caller. -/
def readAlternation : Nat → ReadM Ast
  | 0 => throw .nestLimitExceeded
  | fuel + 1 => readSequence fuel [] []

/-- Read the rest of a sequence of alternatives: `alternatives` holds the finished ones, `items` the
items of the current one, last first. -/
def readSequence : Nat → List Ast → List Ast → ReadM Ast
  | 0, _, _ => throw .nestLimitExceeded
  | fuel + 1, alternatives, items => do
    skipSpace
    let finish : Ast :=
      if alternatives.isEmpty then concatOf items
      else .alternation (alternatives ++ [concatOf items])
    match ← current with
    | none => return finish
    | some ')' => return finish
    | some '|' =>
      _ ← bump
      readSequence fuel (alternatives ++ [concatOf items]) []
    | some '(' =>
      match ← readGroup fuel with
      | .inl flags => readSequence fuel alternatives (.flags flags :: items)
      | .inr group => readSequence fuel alternatives (group :: items)
    | some '[' =>
      let cls ← readClass
      readSequence fuel alternatives (cls :: items)
    | some '?' => readSequence fuel alternatives (← readUncounted .zeroOrOne items)
    | some '*' => readSequence fuel alternatives (← readUncounted .zeroOrMore items)
    | some '+' => readSequence fuel alternatives (← readUncounted .oneOrMore items)
    | some '{' => readSequence fuel alternatives (← readCounted items)
    | some _ =>
      let p ← readPrimitive
      readSequence fuel alternatives (p.toAst :: items)

/-- Read a group at its `(`: flags on their own (which take effect at once), or a group with its
contents and its `)`. -/
def readGroup : Nat → ReadM (FlagItems ⊕ Ast)
  | 0 => throw .nestLimitExceeded
  | fuel + 1 => do
    _ ← bump
    skipSpace
    if (← bumpIf "?=") || (← bumpIf "?!") || (← bumpIf "?<=") || (← bumpIf "?<!") then
      throw .lookAround
    if (← bumpIf "?P<") || (← bumpIf "?<") then
      _ ← readGroupName
      return .inr (.group true [] (← readGroupBody fuel none))
    else if (← bumpIf "?") then
      if (← atEnd) then throw .groupUnclosed
      let flags ← readFlags (← budget) [] false false
      let close ← current
      _ ← bump
      if close == some ')' then
        if flags.isEmpty then throw .repetitionMissing
        if let some v := flags.setting .ignoreWhitespace then
          modify fun r => { r with verbose := v }
        return .inl flags
      else
        return .inr (.group false flags
          (← readGroupBody fuel (flags.setting .ignoreWhitespace)))
    else
      return .inr (.group true [] (← readGroupBody fuel none))

/-- Read the contents of a group and its `)`, with whitespace ignored inside as the group's flags
say; afterwards as before. -/
def readGroupBody : Nat → Option Bool → ReadM Ast
  | 0, _ => throw .nestLimitExceeded
  | fuel + 1, verboseInside => do
    let saved := (← get).verbose
    modify fun r => { r with verbose := verboseInside.getD saved }
    let body ← readAlternation fuel
    if (← current) != some ')' then throw .groupUnclosed
    _ ← bump
    modify fun r => { r with verbose := saved }
    return body

end

end Reader

/-- Read a pattern into its syntax tree. -/
def Ast.parse (pattern : String) : Except RegexError Ast := do
  let cs := pattern.toList
  let (ast, r) ← (Reader.readAlternation (8 * cs.length + 8)).run ⟨cs, false, []⟩
  if !r.rest.isEmpty then throw .groupUnopened
  if ast.depth > nestLimit then throw .nestLimitExceeded
  return ast

end ConceptQuery.Regex
