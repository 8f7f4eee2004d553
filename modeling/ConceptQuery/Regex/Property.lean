import ConceptQuery.Regex.CharSet
import ConceptQuery.Regex.Ast
import ConceptQuery.Regex.Error
import ConceptQuery.Unicode.Category
import ConceptQuery.Unicode.Script
import ConceptQuery.Unicode.ScriptExtension
import ConceptQuery.Unicode.Binary
import ConceptQuery.Unicode.Age
import ConceptQuery.Unicode.Boundary

/-!
# Named classes of characters

The classes a pattern can name: `\p{...}` classes by binary property, general category or script,
the classes `\d`, `\s` and `\w`, and the ASCII classes `[:name:]`.

**Names.** Names are compared loosely: spaces, `_` and `-` are dropped, letters are compared in
lower case, characters beyond ASCII are dropped, and a leading `is` is ignored (`\p{IsGreek}`).
A name alone is looked up first among the binary properties (`Alphabetic`, `White_Space`, ...),
then among the general categories and their groups (`Lu`, `Letter`, `L`, and `Any`, `ASCII`,
`Assigned`), then among the scripts (`Greek`, `Grek`). The names `cf`, `sc` and `lc` are the
categories Format, Currency_Symbol and Cased_Letter, not the properties they also abbreviate. A
name with a value, `\p{gc=Lu}`, `\p{sc=Greek}` or `\p{scx=Greek}`, looks the value up for that
property only. So do the boundary properties (`\p{gcb=Extend}`, `\p{sb=Upper}`, `\p{wb=ALetter}`)
and the age: `\p{age=6.0}` or `\p{age=V6_0}` are the code points assigned by Unicode 6.0, that
is, in 6.0 or in any version before it.

**Perl classes.** `\d` is the category Decimal_Number, `\s` the property White_Space, and `\w`
the letters and marks of Alphabetic, the marks, the decimal digits, the connector punctuation
and the joiners.
-/

namespace ConceptQuery.Regex

open Unicode

/-- A name in the form names are compared in: spaces, `_` and `-` dropped, ASCII letters in lower
case, and other characters beyond ASCII dropped. -/
def normalizeName (s : String) : String :=
  String.ofList (s.toList.filterMap fun c =>
    if c == ' ' || c == '_' || c == '-' || c.toNat > 0x7F then none else some c.toLower)

/-- A name as written in a pattern, in the form names are compared in: also without a leading
`is`, except that `isc` stays `isc`. -/
def normalizeQuery (s : String) : String :=
  let cs := s.toList
  let startsWithIs := match cs with
    | a :: b :: _ => a.toLower == 'i' && b.toLower == 's'
    | _ => false
  let body := normalizeName (String.ofList (if startsWithIs then cs.drop 2 else cs))
  if startsWithIs && body == "c" then "isc" else body

/-- The characters of some general categories. -/
def categorySet (cats : List GeneralCategory) : CharSet :=
  CharSet.ofRanges (cats.flatMap fun g => decodeRanges g.rangeText)

/-- The groups of general categories, with their names. -/
def categoryGroups : List (List String × List GeneralCategory) := [
  (["C", "Other"], [.cc, .cf, .cs, .co, .cn]),
  (["L", "Letter"], [.lu, .ll, .lt, .lm, .lo]),
  (["LC", "Cased_Letter"], [.lu, .ll, .lt]),
  (["M", "Mark", "Combining_Mark"], [.mn, .mc, .me]),
  (["N", "Number"], [.nd, .nl, .no]),
  (["P", "Punctuation", "punct"], [.pc, .pd, .ps, .pe, .pi, .pf, .po]),
  (["S", "Symbol"], [.sm, .sc, .sk, .so]),
  (["Z", "Separator"], [.zs, .zl, .zp])]

/-- The names of a general category. -/
def categoryNames (g : GeneralCategory) : List String :=
  [g.shortName, g.longName] ++
    match g with
    | .cc => ["cntrl"]
    | .nd => ["digit"]
    | _ => []

/-- The characters of a general category or group of them, by compared name. -/
def categoryByName? (name : String) : Option CharSet :=
  if name == "any" then some CharSet.full
  else if name == "ascii" then some (CharSet.range 0 0x7F)
  else if name == "assigned" then some (categorySet [.cn]).complement
  else
    match GeneralCategory.all.find? (fun g => (categoryNames g).any (normalizeName · == name)) with
    | some g => some (categorySet [g])
    | none =>
      (categoryGroups.find? fun (names, _) => names.any (normalizeName · == name)).map
        fun (_, cats) => categorySet cats

/-- A script by compared name: its long name, its code or another alias. -/
def scriptByName? (name : String) : Option Script :=
  scripts.find? fun s => (s.name :: s.code :: s.aliases).any (normalizeName · == name)

/-- A binary property by compared name. -/
def binaryByName? (name : String) : Option BinaryProperty :=
  binaryProperties.find? fun p => (p.name :: p.aliases).any (normalizeName · == name)

/-- The code points assigned by the version with the compared number or name: those of the
versions of the list up to it, and `acc`, the code points of the versions before the list; none if
no version of the list has the name. -/
def assignedBy (name : String) : List UnicodeVersion → CharSet → Option CharSet
  | [], _ => none
  | v :: rest, acc =>
    let acc := acc.union (CharSet.ofRangeText v.rangeText)
    if normalizeName v.number == name || normalizeName v.name == name then some acc
    else assignedBy name rest acc

/-- The code points of a boundary class by compared name: its long name or a short alias. -/
def boundaryClassByName? (classes : List BoundaryClass) (name : String) : Option CharSet :=
  (classes.find? fun c => (c.name :: c.aliases).any (normalizeName · == name)).map
    fun c => CharSet.ofRangeText c.rangeText

/-- The classes of a boundary property by compared name. -/
def boundaryProperty? (name : String) : Option (List BoundaryClass) :=
  if name == "gcb" || name == "graphemeclusterbreak" then some graphemeClusterBreakClasses
  else if name == "sb" || name == "sentencebreak" then some sentenceBreakClasses
  else if name == "wb" || name == "wordbreak" then some wordBreakClasses
  else none

/-- The characters with a binary property, by its long name; none if there is no such
property. -/
def binarySet (name : String) : CharSet :=
  match binaryProperties.find? (·.name == name) with
  | some p => CharSet.ofRangeText p.rangeText
  | none => CharSet.empty

/-- The characters of `\d`. -/
def perlDigit : CharSet := categorySet [.nd]

/-- The characters of `\s`. -/
def perlSpace : CharSet := binarySet "White_Space"

/-- The characters of `\w`. -/
def perlWord : CharSet :=
  (binarySet "Alphabetic").union <|
    (categorySet [.mn, .mc, .me, .nd, .pc]).union (binarySet "Join_Control")

/-- The characters of `\w`, as a table for lookups. -/
def perlWordTable : Array (Nat × Nat) := perlWord.toTable

/-- Whether a character is one of `\w`. -/
def isWordChar (c : Char) : Bool := Text.RangeTable.covers perlWordTable c.toNat

/-- Whether a character is an ASCII letter, digit or `_`. -/
def isAsciiWordChar (c : Char) : Bool :=
  ('a' ≤ c && c ≤ 'z') || ('A' ≤ c && c ≤ 'Z') || ('0' ≤ c && c ≤ '9') || c == '_'

/-- The characters of a class of Unicode named alone (`\p{Greek}`, `\pL`). -/
def propertyByName (name : String) : Except RegexError CharSet :=
  let norm := normalizeQuery name
  let binary := if norm == "cf" || norm == "sc" || norm == "lc" then none else binaryByName? norm
  match binary with
  | some p => .ok (CharSet.ofRangeText p.rangeText)
  | none =>
    match categoryByName? norm with
    | some s => .ok s
    | none =>
      match scriptByName? norm with
      | some s => .ok (CharSet.ofRangeText s.rangeText)
      | none => .error .propertyNotFound

/-- The characters of a class of Unicode named by a property and a value (`\p{sc=Greek}`). -/
def propertyByValue (property value : String) : Except RegexError CharSet :=
  let p := normalizeQuery property
  let v := normalizeQuery value
  if p == "gc" || p == "generalcategory" then
    match categoryByName? v with
    | some s => .ok s
    | none => .error .propertyValueNotFound
  else if p == "sc" || p == "script" then
    match scriptByName? v with
    | some s => .ok (CharSet.ofRangeText s.rangeText)
    | none => .error .propertyValueNotFound
  else if p == "scx" || p == "scriptextensions" then
    match (scriptByName? v).bind fun s => scriptExtensions.find? (·.1 == s.name) with
    | some (_, text) => .ok (CharSet.ofRangeText text)
    | none => .error .propertyValueNotFound
  else if p == "age" then
    match assignedBy v unicodeVersions CharSet.empty with
    | some s => .ok s
    | none => .error .propertyValueNotFound
  else
    match boundaryProperty? p with
    | some classes =>
      match boundaryClassByName? classes v with
      | some s => .ok s
      | none => .error .propertyValueNotFound
    | none => .error .propertyNotFound

/-- The characters a `\p` query names, before any negation. -/
def PropertyQuery.resolve : PropertyQuery → Except RegexError CharSet
  | .letter c => propertyByName (String.singleton c)
  | .named name => propertyByName name
  | .byValue property value _ => propertyByValue property value

/-- Whether a query is negated by itself: `\p{name!=value}`. -/
def PropertyQuery.notEqual : PropertyQuery → Bool
  | .byValue _ _ notEqual => notEqual
  | _ => false

/-- The characters of a Perl class in Unicode. -/
def PerlClass.unicodeSet : PerlClass → CharSet
  | .digit => perlDigit
  | .space => perlSpace
  | .word => perlWord

/-- The characters of an ASCII class. -/
def AsciiClass.set : AsciiClass → CharSet
  | .alnum => CharSet.ofRanges [(0x30, 0x39), (0x41, 0x5A), (0x61, 0x7A)]
  | .alpha => CharSet.ofRanges [(0x41, 0x5A), (0x61, 0x7A)]
  | .ascii => CharSet.range 0 0x7F
  | .blank => CharSet.ofRanges [(0x09, 0x09), (0x20, 0x20)]
  | .cntrl => CharSet.ofRanges [(0x00, 0x1F), (0x7F, 0x7F)]
  | .digit => CharSet.range 0x30 0x39
  | .graph => CharSet.range 0x21 0x7E
  | .lower => CharSet.range 0x61 0x7A
  | .print => CharSet.range 0x20 0x7E
  | .punct => CharSet.ofRanges [(0x21, 0x2F), (0x3A, 0x40), (0x5B, 0x60), (0x7B, 0x7E)]
  | .space => CharSet.ofRanges [(0x09, 0x0D), (0x20, 0x20)]
  | .upper => CharSet.range 0x41 0x5A
  | .word => CharSet.ofRanges [(0x30, 0x39), (0x41, 0x5A), (0x5F, 0x5F), (0x61, 0x7A)]
  | .xdigit => CharSet.ofRanges [(0x30, 0x39), (0x41, 0x46), (0x61, 0x66)]

/-- The characters of a Perl class in ASCII. -/
def PerlClass.asciiSet : PerlClass → CharSet
  | .digit => AsciiClass.digit.set
  | .space => AsciiClass.space.set
  | .word => AsciiClass.word.set

example : normalizeQuery "Is_Greek" = "greek" := by decide
example : normalizeQuery "IsC" = "isc" := by decide

end ConceptQuery.Regex
