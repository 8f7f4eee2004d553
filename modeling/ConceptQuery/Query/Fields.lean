import ConceptQuery.Error
import ConceptQuery.Json.Write
import ConceptQuery.Decimal.Literal
import ConceptQuery.Text.Blank

/-!
# Weighted field lists

A query searches several fields, each with a weight (boost). `FieldWeights` keeps them in the
order of their first insertion, each name once, with the weight of its last insertion.

**The list syntax** is `title, body^2`: entries separated by commas, blanks around an entry
ignored, empty entries skipped; an entry is a name, or a name, a caret and a weight (split at the
first caret, both sides trimmed). A weight is a decimal literal (`Decimal.Literal`); a missing
name or a bad weight stops the reading with a query error, after the entries before it have been
added. `FieldWeights.render` writes the list back, with `^weight` only where the weight is not one.

**From JSON** a field list is a list string, an array of list strings, or an object from names to
numbers read in key order.
-/

namespace ConceptQuery

/-- Fields with weights, in the order of their first insertion, each name once.
Source: `BoostedFields`. -/
@[ext]
structure FieldWeights where
  /-- The names with their weights, in the order of their first insertion. -/
  entries : List (String × Float32)
  /-- No name is listed twice. -/
  nodup : (entries.map Prod.fst).Nodup

namespace FieldWeights

/-- No fields.
Source: `BoostedFields::new`. -/
def empty : FieldWeights := ⟨[], List.nodup_nil⟩

/-- The default field list is the empty one. -/
instance : Inhabited FieldWeights := ⟨empty⟩

/-- Set the weight of a name in a list of entries: in place if the name is there, else at the
end.
Source: the search in `BoostedFields::insert`. -/
def setWeight (name : String) (w : Float32) : List (String × Float32) → List (String × Float32)
  | [] => [(name, w)]
  | (n, v) :: rest => if n == name then (n, w) :: rest else (n, v) :: setWeight name w rest

/-- Setting a weight keeps the names, or appends the name when it is new. -/
theorem names_setWeight (name : String) (w : Float32) (es : List (String × Float32)) :
    (setWeight name w es).map Prod.fst =
      if name ∈ es.map Prod.fst then es.map Prod.fst else es.map Prod.fst ++ [name] := by
  induction es with
  | nil => simp [setWeight]
  | cons e rest ih =>
    obtain ⟨n, v⟩ := e
    by_cases hn : n = name
    · subst hn
      simp [setWeight]
    · have hne : (n == name) = false := beq_false_of_ne hn
      simp only [setWeight, hne, Bool.false_eq_true, if_false, List.map_cons, ih,
        List.mem_cons, Ne.symm hn, false_or]
      split <;> rfl

/-- Setting a weight keeps the names distinct: a new name is not among the old ones. -/
theorem nodup_setWeight (name : String) (w : Float32) {es : List (String × Float32)}
    (h : (es.map Prod.fst).Nodup) : ((setWeight name w es).map Prod.fst).Nodup := by
  rw [names_setWeight]
  split
  · exact h
  · rename_i hnew
    refine List.nodup_append.2 ⟨h, List.nodup_cons.2 ⟨List.not_mem_nil, List.nodup_nil⟩, ?_⟩
    rintro a ha b hb rfl
    exact hnew (List.mem_singleton.1 hb ▸ ha)

/-- Insert a field with a weight.
Source: `BoostedFields::insert`. -/
def insert (fs : FieldWeights) (name : String) (w : Float32) : FieldWeights :=
  ⟨setWeight name w fs.entries, nodup_setWeight name w fs.nodup⟩

/-- The fields of a list of names, each of weight one.
Source: `BoostedFields::from_names`. -/
def ofNames (names : List String) : FieldWeights :=
  names.foldl (fun fs n => fs.insert n 1) empty

/-- Fields inserted one pair after the other.
Source: `BoostedFields::from_iter`. -/
def ofPairs (pairs : List (String × Float32)) : FieldWeights :=
  pairs.foldl (fun fs p => fs.insert p.1 p.2) empty

/-- The weight of a field, if it is in the list.
Source: `BoostedFields::boost`. -/
def weight? (fs : FieldWeights) (name : String) : Option Float32 :=
  (fs.entries.find? (·.1 == name)).map Prod.snd

/-- The names, in order.
Source: `BoostedFields::names`. -/
def names (fs : FieldWeights) : List String := fs.entries.map Prod.fst

/-- No name is listed twice. -/
theorem nodup_names (fs : FieldWeights) : fs.names.Nodup := fs.nodup

/-- The number of fields.
Source: `BoostedFields::len`. -/
def size (fs : FieldWeights) : Nat := fs.entries.length

/-- Whether there are no fields.
Source: `BoostedFields::is_empty`. -/
def isEmpty (fs : FieldWeights) : Bool := fs.entries.isEmpty

/-- Whether some weight is not one.
Source: `BoostedFields::has_boosts`. -/
def hasWeights (fs : FieldWeights) : Bool := fs.entries.any (·.2 != 1)

/-- The same names, each of weight one.
Source: `BoostedFields::unweighted`. -/
def unweighted (fs : FieldWeights) : FieldWeights := ofNames fs.names

/-- A weight as written in a field list. -/
def weightText (w : Float32) : String := Decimal.renderFloat32 .plain w

/-- `name` or `name^weight`, the weight written only when it is not one.
Source: the loop of `BoostedFields::fmt`. -/
def entryText (e : String × Float32) : String :=
  e.1 ++ (if e.2 != 1 then "^" ++ weightText e.2 else "")

/-- The list syntax of the fields: `a,b^2`.
Source: `BoostedFields::fmt`. -/
def render (fs : FieldWeights) : String := ",".intercalate (fs.entries.map entryText)

/-- Split a list of characters at the first occurrence of `sep`. -/
def splitFirst (sep : Char) (cs : List Char) : Option (List Char × List Char) :=
  match cs.span (· != sep) with
  | (before, _ :: after) => some (before, after)
  | (_, []) => none

/-- Read one trimmed, non-empty entry of a list into a name and a weight.
Source: the entry reading of `BoostedFields::extend_from_list`. -/
def readEntry (entry : String) : Except Error (String × Float32) :=
  match splitFirst '^' entry.toList with
  | some (name, weight) =>
    match Decimal.Literal.parse (Text.trimBlank (String.ofList weight)) with
    | .error e => .error (.query ("Invalid boost in field [" ++ entry ++ "]: " ++ e.message))
    | .ok lit =>
      let n := Text.trimBlank (String.ofList name)
      if n.isEmpty then .error (.query ("Missing field name in [" ++ entry ++ "]"))
      else .ok (n, lit.toFloat32)
  | none => .ok (entry, 1)

/-- Add the entries of a list text in order; the first bad entry stops the reading, and the
fields read before it are kept in the result beside the error.
Source: the loop of `BoostedFields::extend_from_list`. -/
def extendFromEntries (fs : FieldWeights) : List String → FieldWeights × Option Error
  | [] => (fs, none)
  | raw :: rest =>
    let entry := Text.trimBlank raw
    if entry.isEmpty then extendFromEntries fs rest
    else
      match readEntry entry with
      | .ok (n, w) => extendFromEntries (fs.insert n w) rest
      | .error e => (fs, some e)

/-- Add the entries of a list text, reporting the fields added up to the first bad entry and
that entry's error. -/
def extendFromList (fs : FieldWeights) (list : String) : FieldWeights × Option Error :=
  extendFromEntries fs (list.splitToList (· == ','))

/-- Add the entries of a list text, failing at the first bad entry.
Source: `BoostedFields::extend_from_list`. -/
def extend (fs : FieldWeights) (list : String) : Except Error FieldWeights :=
  match fs.extendFromList list with
  | (fs', none) => .ok fs'
  | (_, some e) => .error e

/-- The fields of a list text.
Source: `BoostedFields::parse`. -/
def parse (list : String) : Except Error FieldWeights := empty.extend list

/-- Add the fields of an array of list texts, in order.
Source: the array case of `BoostedFields::from_json`. -/
def extendFromArray (fs : FieldWeights) : List Json → Except Error FieldWeights
  | [] => .ok fs
  | .string list :: rest => do extendFromArray (← fs.extend list) rest
  | other :: _ =>
    .error (.query ("invalid value type in fields array [" ++ Json.compact other ++
      "], only \"field^boost\" is supported"))

/-- Add the members of an object from names to numbers, in key order; a number is taken as a
double and then narrowed to a single.
Source: the object case of `BoostedFields::from_json`. -/
def extendFromObject (fs : FieldWeights) : List (String × Json) → Except Error FieldWeights
  | [] => .ok fs
  | (name, value) :: rest =>
    match value with
    | .number n =>
      extendFromObject (fs.insert (Text.trimBlank name) (doubleToSingle n.toFloat)) rest
    | other =>
      .error (.query ("invalid value type in fields map [" ++ Json.compact other ++
        "], only numeric is supported"))

/-- The fields of a JSON value: a list text, an array of list texts, or an object from names to
numbers.
Source: `BoostedFields::from_json`. -/
def ofJson (j : Json) : Except Error FieldWeights :=
  match j with
  | .string list => parse list
  | .array items => empty.extendFromArray items
  | .object members => empty.extendFromObject members
  | other => .error (.query ("invalid value type for fields [" ++ Json.compact other ++ "]"))

/-- The fields as a JSON object from names to weights, in key order.
Source: `BoostedFields::serialize`. -/
def toJsonMap (fs : FieldWeights) : Json :=
  .object (fs.entries.foldl (fun ms (n, w) => Json.Members.insert n (.ofFloat32 w) ms) [])

/-- The fields as a JSON object from names to weights, in their own order. -/
def toJsonObject (fs : FieldWeights) : Json :=
  .object (fs.entries.map fun (n, w) => (n, .ofFloat32 w))

end FieldWeights

end ConceptQuery
