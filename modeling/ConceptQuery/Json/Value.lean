/-!
# JSON values

Requests, parameters and documents arrive as JSON, and reports leave as JSON. A `Json` value is
the tree of the format. Numbers keep the kind they were written with: a non-negative integer, a
negative integer, or a binary float; a float of single precision is kept as such, so that a
report writes it with the digits of its own precision.

**Objects are ordered lists of members.** An object read from text behaves as a map: its keys
are sorted and unique, the last of repeated members winning (`Json.Members.insert`). An object
built for output keeps the order in which its members were given.
-/

namespace ConceptQuery

open Float.Model in
/-- A float rounded to a binary format: a finite value to the nearest value of the format, ties
to even, too large a one to an infinity; zeros, infinities and NaN as they are. -/
def roundToFormat (spec : Format) : UnpackedFloat → UnpackedFloat
  | .finite s m e _ => UnpackedFloat.round spec s m e
  | u => u

/-- A single widened to a double, which is exact. -/
def singleToDouble (x : Float32) : Float :=
  .ofModel (Float.Model.pack (roundToFormat .binary64 x.toModel.unpack))

/-- A double narrowed to the nearest single, ties to even. -/
def doubleToSingle (x : Float) : Float32 :=
  .ofModel (Float32.Model.pack (roundToFormat .binary32 x.toModel.unpack))

/-- A JSON number as written or read. -/
inductive JsonNumber where
  /-- A non-negative integer. -/
  | nat (n : Nat)
  /-- The negative integer `-n`, for `n ≥ 1`. -/
  | neg (n : Nat)
  /-- A double-precision float. -/
  | double (x : Float)
  /-- A single-precision float. -/
  | single (x : Float32)

/-- A JSON value. -/
inductive Json where
  /-- `null`. -/
  | null
  /-- `true` or `false`. -/
  | bool (b : Bool)
  /-- A number. -/
  | number (n : JsonNumber)
  /-- A string. -/
  | string (s : String)
  /-- An array of items. -/
  | array (items : List Json)
  /-- An object, its members in the order given. -/
  | object (members : List (String × Json))

namespace JsonNumber

/-- The number as a double: integers are rounded to the nearest double, singles are widened. -/
def toFloat : JsonNumber → Float
  | .nat n => Float.ofNat n
  | .neg n => -Float.ofNat n
  | .double x => x
  | .single x => singleToDouble x

/-- The number as a single, each kind rounded once: integers to the nearest single, doubles
narrowed to the nearest single. -/
def toFloat32 : JsonNumber → Float32
  | .nat n => Float32.ofNat n
  | .neg n => -Float32.ofNat n
  | .double x => doubleToSingle x
  | .single x => x

end JsonNumber

namespace Json

/-- Members of an object read as a map: sorted by key, each key once. -/
abbrev Members := List (String × Json)

/-- Insert a member into a map's members, keeping the keys sorted and replacing the value of an
existing key. -/
def Members.insert (key : String) (value : Json) : Members → Members
  | [] => [(key, value)]
  | (k, v) :: rest =>
    if key < k then (key, value) :: (k, v) :: rest
    else if key == k then (key, value) :: rest
    else (k, v) :: Members.insert key value rest

/-- The members of an object, or `none` for any other value. -/
def members? : Json → Option Members
  | .object ms => some ms
  | _ => none

/-- The value of a member of an object, if the value is an object holding that key. -/
def get? (j : Json) (key : String) : Option Json :=
  match j with
  | .object ms => (ms.find? (·.1 == key)).map Prod.snd
  | _ => none

/-- The text of a string value. -/
def str? : Json → Option String
  | .string s => some s
  | _ => none

/-- The truth value of a boolean. -/
def bool? : Json → Option Bool
  | .bool b => some b
  | _ => none

/-- The items of an array. -/
def items? : Json → Option (List Json)
  | .array xs => some xs
  | _ => none

/-- A number as a double, for any number. -/
def double? : Json → Option Float
  | .number n => some n.toFloat
  | _ => none

/-- A non-negative integer. -/
def nat? : Json → Option Nat
  | .number (.nat n) => some n
  | _ => none

mutual

/-- The number of values in a JSON tree, itself included. -/
def size : Json → Nat
  | .array xs => 1 + sizeItems xs
  | .object ms => 1 + sizeMembers ms
  | _ => 1

/-- The number of values in a list of JSON trees. -/
def sizeItems : List Json → Nat
  | [] => 0
  | x :: rest => size x + sizeItems rest

/-- The number of values in the members of an object. -/
def sizeMembers : List (String × Json) → Nat
  | [] => 0
  | (_, x) :: rest => size x + sizeMembers rest

end

/-- A double value. -/
def ofFloat (x : Float) : Json := .number (.double x)

/-- A single value. -/
def ofFloat32 (x : Float32) : Json := .number (.single x)

/-- A non-negative integer value. -/
def ofNat (n : Nat) : Json := .number (.nat n)

/-- An array of strings. -/
def ofStrings (xs : List String) : Json := .array (xs.map .string)

end Json

end ConceptQuery
