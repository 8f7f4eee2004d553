import ConceptQuery.Proofs.Fields.Insertions
import ConceptQuery.Proofs.Fields.ListText

/-!
# The JSON forms of a field list

A field list arrives in JSON as a list text, as an array of list texts or as an object from names
to numbers, and the three forms read alike. A text reads as its list, and an array of texts as the
one text that joins them with commas, with the same fields or the same error
(`FieldWeights.extendFromArray_strings`). An object inserts its members in its own order, which
for an object read from text is the order of its keys, each name trimmed and each number narrowed
to a single (`FieldWeights.extendFromObject_numbers`). The first item of an array that is not a
text, unless a text before it was refused first, the first member of an object that is not a
number, and every other value are refused with a query error that quotes the value
(`FieldWeights.ofJson_forms`).

**Names.** Every name read is trimmed (`Text.trimBlank_trimBlank`). The list forms refuse an empty
name, but an object does not: a key made of blanks is read as a field with an empty name
(`FieldWeights.ofJson_blank_key`). So a name read from JSON is empty only when an object had such
a key (`FieldWeights.names_of_ofJson`).
-/

namespace ConceptQuery

namespace Text

/-- Trimming a trimmed text changes nothing. -/
theorem trimBlank_trimBlank (s : String) : trimBlank (trimBlank s) = trimBlank s := by
  have ht : (trimBlank s).toList =
      ((s.toList.dropWhile isBlank).reverse.dropWhile isBlank).reverse := by
    rw [trimBlank, String.toList_ofList]
  refine trimBlank_eq_self_iff.2 ⟨?_, ?_⟩
  · -- what is left starts where the leading blanks end
    have hpre : (trimBlank s).toList <+: s.toList.dropWhile isBlank := by
      have hsuf := (List.dropWhile_suffix (l := (s.toList.dropWhile isBlank).reverse)
        isBlank).reverse
      rwa [List.reverse_reverse, ← ht] at hsuf
    refine List.dropWhile_eq_self_iff.2 fun hl => ?_
    have hne : s.toList.dropWhile isBlank ≠ [] :=
      List.ne_nil_of_length_pos (Nat.lt_of_lt_of_le hl hpre.length_le)
    rw [hpre.getElem hl, ← List.head_eq_getElem hne, List.head_dropWhile_not isBlank hne]
    exact Bool.false_ne_true
  · rw [ht, List.reverse_reverse]
    exact List.dropWhile_idempotent isBlank _

end Text

namespace FieldWeights

/-! ### Names read from list texts -/

/-- A name read from a trimmed, non-empty entry is trimmed and not empty. -/
theorem name_of_readEntry {entry : String} {e : String × Float32} (h : readEntry entry = .ok e)
    (htrim : Text.trimBlank entry = entry) (hne : entry.isEmpty = false) :
    Text.trimBlank e.1 = e.1 ∧ e.1 ≠ "" := by
  unfold readEntry at h
  split at h
  · split at h
    · cases h
    · -- a weight was read; the name left of the caret must not be empty
      dsimp only at h
      split at h
      · cases h
      · rename_i hname
        cases h
        exact ⟨Text.trimBlank_trimBlank _, fun he => hname (by simpa using he)⟩
  · cases h
    refine ⟨htrim, fun he => ?_⟩
    simp only at he
    simp [he] at hne

/-- Every name read from the pieces of a list text is trimmed and not empty. -/
theorem name_of_mem_readEntries (raws : List String) :
    ∀ e ∈ (readEntries raws).1, Text.trimBlank e.1 = e.1 ∧ e.1 ≠ "" := by
  induction raws with
  | nil => simp [readEntries]
  | cons raw rest ih =>
    rw [readEntries]
    split
    · exact ih
    · rename_i hne
      split
      · rename_i e' he'
        intro e he
        rcases List.mem_cons.1 he with rfl | he
        · exact name_of_readEntry he' (Text.trimBlank_trimBlank raw) (by simpa using hne)
        · exact ih e he
      · simp

/-- The names of a run are names it inserted. -/
theorem mem_of_mem_names_ofPairs {ps : List (String × Float32)} {n : String}
    (h : n ∈ (ofPairs ps).names) : n ∈ ps.map Prod.fst := by
  rwa [(records_ofPairs ps).names_eq, List.mem_eraseDups] at h

/-- Every name read from JSON is trimmed, and it is empty only when the JSON is an object with a
key that trims to nothing. -/
theorem names_of_ofJson {j : Json} {fs : FieldWeights} (h : ofJson j = .ok fs) :
    ∀ n ∈ fs.names, Text.trimBlank n = n ∧
      (n = "" → ∃ ms, j = .object ms ∧ ∃ m ∈ ms, Text.trimBlank m.1 = "") := by
  intro n hn
  rw [eq_ofPairs_of_ofJson h] at hn
  obtain ⟨e, he, rfl⟩ := List.mem_map.1 (mem_of_mem_names_ofPairs hn)
  cases j with
  | string list =>
    obtain ⟨htrim, hne⟩ := name_of_mem_readEntries _ e he
    exact ⟨htrim, fun hempty => absurd hempty hne⟩
  | array items =>
    obtain ⟨htrim, hne⟩ := name_of_mem_readEntries _ e he
    exact ⟨htrim, fun hempty => absurd hempty hne⟩
  | object members =>
    -- a member's name is its key trimmed
    rw [jsonEntries, List.mem_filterMap] at he
    obtain ⟨m, hm, hme⟩ := he
    obtain ⟨x, -, rfl⟩ := Option.map_eq_some_iff.1 hme
    exact ⟨Text.trimBlank_trimBlank m.1, fun hempty => ⟨members, rfl, m, hm, hempty⟩⟩
  | _ => cases he

/-! ### What is refused -/

/-- An array item that is not a list text is refused, quoted. -/
theorem extendFromArray_of_not_string (fs : FieldWeights) {other : Json} (h : other.str? = none)
    (rest : List Json) :
    fs.extendFromArray (other :: rest) =
      .error (.query ("invalid value type in fields array [" ++ Json.compact other ++
        "], only \"field^boost\" is supported")) := by
  cases other with
  | string s => cases h
  | _ => rfl

/-- An object member that is not a number is refused, quoted. -/
theorem extendFromObject_of_not_number (fs : FieldWeights) {other : Json}
    (h : other.double? = none) (key : String) (rest : List (String × Json)) :
    fs.extendFromObject ((key, other) :: rest) =
      .error (.query ("invalid value type in fields map [" ++ Json.compact other ++
        "], only numeric is supported")) := by
  cases other with
  | number n => cases h
  | _ => rfl

/-- A value that is no text, no array and no object is refused, quoted. -/
theorem ofJson_of_scalar {j : Json} (hs : j.str? = none) (ha : j.items? = none)
    (ho : j.members? = none) :
    ofJson j = .error (.query ("invalid value type for fields [" ++ Json.compact j ++ "]")) := by
  cases j with
  | string s => cases hs
  | array items => cases ha
  | object members => cases ho
  | _ => rfl

/-! ### The three forms -/

/-- Reading a field list from JSON, for every value: a text reads as its list; an array of texts
as the text that joins them with commas, with the same fields or the same error; an array item
that is not a text is refused unless a text before it was refused first; an object of numbers
inserts each member, in its order (for an object read from text, the order of its keys), with the
name trimmed and the number narrowed to a single, and the first member that is not a number is
refused; any other value is refused. When no key of the value trims to nothing, every name read is
trimmed and not empty. -/
theorem ofJson_forms (j : Json) :
    (∀ list, j = .string list → ofJson j = parse list) ∧
    (∀ strs : List String, j = .array (strs.map .string) →
      ofJson j = parse (",".intercalate strs)) ∧
    (∀ (strs : List String) (other : Json) (rest : List Json), other.str? = none →
      j = .array (strs.map .string ++ other :: rest) →
      ofJson j = (parse (",".intercalate strs)).bind fun _ =>
        .error (.query ("invalid value type in fields array [" ++ Json.compact other ++
          "], only \"field^boost\" is supported"))) ∧
    (∀ ms : List (String × JsonNumber), j = .object (ms.map fun m => (m.1, .number m.2)) →
      ofJson j = .ok (ofPairs (ms.map numberEntry))) ∧
    (∀ (ms : List (String × JsonNumber)) (key : String) (other : Json)
        (rest : List (String × Json)), other.double? = none →
      j = .object ((ms.map fun m => (m.1, .number m.2)) ++ (key, other) :: rest) →
      ofJson j = .error (.query ("invalid value type in fields map [" ++ Json.compact other ++
        "], only numeric is supported"))) ∧
    (j.str? = none → j.items? = none → j.members? = none →
      ofJson j = .error (.query ("invalid value type for fields [" ++ Json.compact j ++ "]"))) ∧
    ((∀ ms, j = .object ms → ∀ m ∈ ms, Text.trimBlank m.1 ≠ "") →
      ∀ fs, ofJson j = .ok fs → ∀ n ∈ fs.names, n ≠ "" ∧ Text.trimBlank n = n) := by
  refine ⟨?_, ?_, ?_, ?_, ?_, ofJson_of_scalar, ?_⟩
  · rintro list rfl
    rfl
  · rintro strs rfl
    exact extendFromArray_strings empty strs
  · rintro strs other rest hother rfl
    show empty.extendFromArray _ = (empty.extend _).bind _
    rw [extendFromArray_strings_append]
    cases empty.extend (",".intercalate strs) with
    | error e => rfl
    | ok fs => exact extendFromArray_of_not_string fs hother rest
  · rintro ms rfl
    exact extendFromObject_numbers empty ms
  · rintro ms key other rest hother rfl
    show empty.extendFromObject _ = _
    rw [extendFromObject_numbers_append]
    exact extendFromObject_of_not_number _ hother key rest
  · -- a name is empty only when an object had a blank key
    intro hkeys fs h n hn
    obtain ⟨htrim, hempty⟩ := names_of_ofJson h n hn
    refine ⟨fun he => ?_, htrim⟩
    obtain ⟨ms, rfl, m, hm, hblank⟩ := hempty he
    exact hkeys ms rfl m hm hblank

/-- An object whose key is a blank is read as a field with an empty name: the object form trims
its keys but, unlike the list forms, does not refuse an empty name. -/
theorem ofJson_blank_key :
    ∃ fs, ofJson (.object [(" ", .number (.nat 1))]) = .ok fs ∧ "" ∈ fs.names := by
  refine ⟨ofPairs [numberEntry (" ", .nat 1)], extendFromObject_numbers empty [(" ", .nat 1)], ?_⟩
  have hblank : Text.trimBlank " " = "" := by decide
  simp [ofPairs, numberEntry, hblank, FieldWeights.insert, setWeight, empty, names]

end FieldWeights

end ConceptQuery
