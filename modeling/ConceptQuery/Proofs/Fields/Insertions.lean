import ConceptQuery.Proofs.Fields.Names

/-!
# Runs of insertions

Every field list is made by inserting fields one after the other into the empty list: the fields
of a list of pairs or of names, of a list text, of each JSON form. What a run of insertions gives
is said here without the insertions (`FieldWeights.Records`): each name once, the names in the
order of their first insertion, each field with the weight of its name's last insertion, which is
also the weight `FieldWeights.weight?` answers, and no weight for a name never inserted
(`FieldWeights.records_ofPairs`, by induction on the run, one insertion at a time). A field list
with distinct names is the run of its own entries, so a run that starts from it follows the same
law (`FieldWeights.insertAll_eq_ofPairs`).

**Reading is inserting.** A list text is read entry by entry into names and weights
(`FieldWeights.readEntries`), whatever fields it is added to, and adding it inserts the entries
read, in order, up to the first bad one (`FieldWeights.extendFromEntries_eq`). An array of list
texts reads as the one text that joins them with commas (`FieldWeights.extendFromArray_strings`),
since the pieces of a joined text are those of its parts, and an object of numbers inserts its
members (`FieldWeights.extendFromObject_numbers`). So every field list read from JSON is the run of
the entries the JSON asks for (`FieldWeights.eq_ofPairs_of_ofJson`).
-/

namespace ConceptQuery

namespace FieldWeights

/-! ### Runs -/

/-- Insert pairs one after the other. -/
def insertAll (fs : FieldWeights) (ps : List (String × Float32)) : FieldWeights :=
  ps.foldl (fun acc p => acc.insert p.1 p.2) fs

/-- Inserting two lists of pairs is inserting the first, then the second. -/
theorem insertAll_append (fs : FieldWeights) (ps qs : List (String × Float32)) :
    fs.insertAll (ps ++ qs) = (fs.insertAll ps).insertAll qs :=
  List.foldl_append

/-- The fields of pairs are the pairs inserted into no fields. -/
theorem ofPairs_eq_insertAll (ps : List (String × Float32)) : ofPairs ps = empty.insertAll ps :=
  rfl

/-- The fields of names are the names paired with weight one. -/
theorem ofNames_eq_ofPairs (ns : List String) : ofNames ns = ofPairs (ns.map fun n => (n, 1)) := by
  rw [ofNames, ofPairs, List.foldl_map]

/-- A field list is the run of its own entries, its names being distinct. -/
theorem ofPairs_entries (fs : FieldWeights) : ofPairs fs.entries = fs :=
  FieldWeights.ext (@entries_foldl_insert fs.entries empty fs.nodup_names (by simp [empty, names]))

/-- A run from a field list continues the run of its entries. -/
theorem insertAll_eq_ofPairs (fs : FieldWeights) (ps : List (String × Float32)) :
    fs.insertAll ps = ofPairs (fs.entries ++ ps) := by
  rw [ofPairs_eq_insertAll, insertAll_append, ← ofPairs_eq_insertAll, ofPairs_entries]

/-! ### What a run gives -/

/-- The weight a name was inserted with last in a run of insertions, if it was inserted. -/
def lastWeight? (ps : List (String × Float32)) (name : String) : Option Float32 :=
  (ps.reverse.find? (·.1 == name)).map Prod.snd

/-- A pair given last decides the weight of its name. -/
theorem lastWeight?_append_singleton (ps : List (String × Float32)) (p : String × Float32)
    (n : String) : lastWeight? (ps ++ [p]) n = if p.1 = n then some p.2 else lastWeight? ps n := by
  by_cases h : p.1 = n <;> simp [lastWeight?, h]

/-- `Records ps fs`: the field list `fs` is what the insertions `ps` give, one after the other,
from the empty list. -/
structure Records (ps : List (String × Float32)) (fs : FieldWeights) : Prop where
  /-- Each name once. -/
  nodup : fs.names.Nodup
  /-- The names in the order of their first insertion. -/
  names_eq : fs.names = (ps.map Prod.fst).eraseDups
  /-- Each field has the weight of its name's last insertion. -/
  entry_weight : ∀ e ∈ fs.entries, lastWeight? ps e.1 = some e.2
  /-- The weight of a name is that of its last insertion, and a name never inserted has none. -/
  weight?_eq : ∀ n, fs.weight? n = lastWeight? ps n

/-- Setting a weight answers it for its name and leaves the weights of the other names. -/
theorem find?_setWeight (name m : String) (w : Float32) (es : List (String × Float32)) :
    ((setWeight name w es).find? (·.1 == m)).map Prod.snd =
      if name = m then some w else (es.find? (·.1 == m)).map Prod.snd := by
  induction es with
  | nil => by_cases h : name = m <;> simp [setWeight, h]
  | cons e rest ih =>
    obtain ⟨n, v⟩ := e
    by_cases hn : n = name
    · -- the first field of the name takes the weight
      subst hn
      by_cases h : n = m <;> simp [setWeight, h]
    · have hne : (n == name) = false := beq_false_of_ne hn
      simp only [setWeight, hne, Bool.false_eq_true, if_false]
      by_cases hm : n = m
      · subst hm
        simp [Ne.symm hn]
      · simp [hm, ih]

/-- After an insertion the inserted name has its new weight and the others keep theirs. -/
theorem weight?_insert (fs : FieldWeights) (name m : String) (w : Float32) :
    (fs.insert name w).weight? m = if name = m then some w else fs.weight? m :=
  find?_setWeight name m w fs.entries

/-- The weight of a field's name is the field's weight, the names being distinct. -/
theorem weight?_of_mem {fs : FieldWeights} {e : String × Float32} (he : e ∈ fs.entries) :
    fs.weight? e.1 = some e.2 := by
  obtain ⟨es, h⟩ := fs
  simp only [weight?] at *
  induction es with
  | nil => cases he
  | cons x rest ih =>
    rw [List.map_cons, List.nodup_cons] at h
    rcases List.mem_cons.1 he with rfl | he
    · simp
    · have hne : x.1 ≠ e.1 := fun heq => h.1 (heq ▸ List.mem_map_of_mem he)
      simp [hne, ih h.2 he]

/-- A name added last to a list adds itself to the distinct names when it is new. -/
theorem eraseDups_append_singleton (l : List String) (x : String) :
    (l ++ [x]).eraseDups = if x ∈ l then l.eraseDups else l.eraseDups ++ [x] := by
  rw [List.eraseDups_append]
  by_cases h : x ∈ l <;> simp [List.removeAll, h, List.eraseDups_cons]

/-- No fields record no insertions. -/
theorem records_empty : Records [] empty :=
  ⟨empty.nodup_names, rfl, fun _ he => (List.not_mem_nil he).elim, fun _ => rfl⟩

/-- One more insertion: a new name goes last, and the inserted weight becomes its name's. -/
theorem Records.insert {ps : List (String × Float32)} {fs : FieldWeights} (h : Records ps fs)
    (p : String × Float32) : Records (ps ++ [p]) (fs.insert p.1 p.2) := by
  have hweight : ∀ n, (fs.insert p.1 p.2).weight? n = lastWeight? (ps ++ [p]) n := by
    intro n
    rw [weight?_insert, h.weight?_eq, lastWeight?_append_singleton]
  refine ⟨(fs.insert p.1 p.2).nodup_names, ?_, fun e he => ?_, hweight⟩
  · rw [names_insert, h.names_eq, List.map_append, List.map_singleton,
      eraseDups_append_singleton]
    simp only [List.mem_eraseDups]
  · rw [← hweight]
    exact weight?_of_mem he

/-- The pairs inserted one after the other into the empty list give what their run records. -/
theorem records_ofPairs (ps : List (String × Float32)) : Records ps (ofPairs ps) := by
  induction ps using List.reverseRecOn with
  | nil => exact records_empty
  | append_singleton ps p ih =>
    rw [ofPairs_eq_insertAll, insertAll_append]
    exact ih.insert p

/-- Inserting pairs records the entries so far followed by the pairs. -/
theorem records_insertAll (fs : FieldWeights) (ps : List (String × Float32)) :
    Records (fs.entries ++ ps) (fs.insertAll ps) := by
  rw [insertAll_eq_ofPairs]
  exact records_ofPairs _

/-! ### Reading a list text -/

/-- The entries of the pieces of a list text, read in order up to the first bad one: the names
and weights read, and the bad entry's error, if any. Empty entries are skipped. -/
def readEntries : List String → List (String × Float32) × Option Error
  | [] => ([], none)
  | raw :: rest =>
    if (Text.trimBlank raw).isEmpty then readEntries rest
    else
      match readEntry (Text.trimBlank raw) with
      | .ok e => (e :: (readEntries rest).1, (readEntries rest).2)
      | .error err => ([], some err)

/-- The entries of a list text. -/
def entriesOf (list : String) : List (String × Float32) × Option Error :=
  readEntries (list.splitToList (· == ','))

/-- Adding the pieces of a list text inserts the entries read from them, whatever the fields
before. -/
theorem extendFromEntries_eq (fs : FieldWeights) (raws : List String) :
    fs.extendFromEntries raws = (fs.insertAll (readEntries raws).1, (readEntries raws).2) := by
  induction raws generalizing fs with
  | nil => rfl
  | cons raw rest ih =>
    rw [extendFromEntries, readEntries]
    split
    · exact ih fs
    · split
      · rename_i e he
        rw [he, ih]
        rfl
      · rename_i err he
        rw [he]
        rfl

/-- Adding a list text inserts its entries, or fails with its bad entry's error. -/
theorem extend_eq (fs : FieldWeights) (list : String) :
    fs.extend list = (entriesOf list).2.elim (.ok (fs.insertAll (entriesOf list).1)) .error := by
  rw [extend, extendFromList, extendFromEntries_eq, entriesOf]
  cases (readEntries (list.splitToList (· == ','))).2 <;> rfl

/-- Adding a list text succeeds when no entry is bad, and inserts the entries read. -/
theorem extend_eq_ok_iff {fs fs' : FieldWeights} {list : String} :
    fs.extend list = .ok fs' ↔ (entriesOf list).2 = none ∧ fs' = fs.insertAll (entriesOf list).1 := by
  rw [extend_eq]
  cases (entriesOf list).2 with
  | none => simp [eq_comm]
  | some e => simp

/-- The entries of pieces read one after the other: those of the second part are read only when
the first has no bad entry. -/
theorem readEntries_append (l₁ l₂ : List String) :
    readEntries (l₁ ++ l₂) =
      if (readEntries l₁).2 = none then
        ((readEntries l₁).1 ++ (readEntries l₂).1, (readEntries l₂).2)
      else readEntries l₁ := by
  induction l₁ with
  | nil => simp [readEntries]
  | cons raw rest ih =>
    rw [List.cons_append, readEntries, readEntries]
    split
    · exact ih
    · split
      · rw [ih]
        split <;> simp_all
      · simp

/-- A text joined at a comma splits into the pieces of its two parts. -/
theorem splitToList_append_comma (a b : String) :
    (a ++ "," ++ b).splitToList (· == ',') =
      a.splitToList (· == ',') ++ b.splitToList (· == ',') := by
  rw [String.splitToList_of_valid, String.splitToList_of_valid, String.splitToList_of_valid,
    String.toList_append, String.toList_append, show ",".toList = [','] from rfl,
    List.append_assoc, List.singleton_append, List.splitOnP_append_cons _ _ (by rfl),
    List.map_append]

/-- Adding a text joined at a comma adds its first part, then its second. -/
theorem extend_append_comma (fs : FieldWeights) (a b : String) :
    fs.extend (a ++ "," ++ b) = (fs.extend a).bind fun fs' => fs'.extend b := by
  have hentries : entriesOf (a ++ "," ++ b) =
      if (entriesOf a).2 = none then ((entriesOf a).1 ++ (entriesOf b).1, (entriesOf b).2)
      else entriesOf a := by
    rw [entriesOf, splitToList_append_comma, readEntries_append]
    rfl
  rw [extend_eq, extend_eq, hentries]
  by_cases ha : (entriesOf a).2 = none
  · -- the first part reads whole, and the second is added to its fields
    rw [if_pos ha, ha]
    show _ = (fs.insertAll (entriesOf a).1).extend b
    rw [extend_eq, insertAll_append]
  · rw [if_neg ha]
    obtain ⟨e, he⟩ := Option.ne_none_iff_exists'.1 ha
    rw [he]
    rfl

/-- The empty text is one empty entry, which is skipped. -/
theorem extend_empty (fs : FieldWeights) : fs.extend "" = .ok fs := by
  have hempty : entriesOf "" = ([], none) := by
    rw [entriesOf, show "".splitToList (· == ',') = [""] by rw [String.splitToList_of_valid]; rfl]
    rfl
  rw [extend_eq, hempty]
  rfl

/-- List texts at the head of an array are read as the one text that joins them with commas,
before the rest of the array. -/
theorem extendFromArray_strings_append (fs : FieldWeights) (strs : List String)
    (tail : List Json) :
    fs.extendFromArray (strs.map .string ++ tail) =
      (fs.extend (",".intercalate strs)).bind fun fs' => fs'.extendFromArray tail := by
  induction strs generalizing fs with
  | nil => rw [List.map_nil, List.nil_append, String.intercalate_nil, extend_empty]; rfl
  | cons s rest ih =>
    rw [List.map_cons, List.cons_append, extendFromArray]
    cases rest with
    | nil =>
      rw [String.intercalate_singleton]
      cases fs.extend s with
      | error e => rfl
      | ok fs' => exact (ih fs').trans (by rw [String.intercalate_nil, extend_empty])
    | cons t rest =>
      rw [String.intercalate_cons_cons, extend_append_comma]
      cases fs.extend s with
      | error e => rfl
      | ok fs' => exact ih fs'

/-- An array of list texts is read as the one text that joins them with commas. -/
theorem extendFromArray_strings (fs : FieldWeights) (strs : List String) :
    fs.extendFromArray (strs.map .string) = fs.extend (",".intercalate strs) := by
  have h := extendFromArray_strings_append fs strs []
  rw [List.append_nil] at h
  rw [h]
  cases fs.extend (",".intercalate strs) <;> rfl

/-! ### Reading JSON -/

/-- A numeric member as a field: its name trimmed and its number narrowed to a single. -/
def numberEntry (m : String × JsonNumber) : String × Float32 :=
  (Text.trimBlank m.1, doubleToSingle m.2.toFloat)

/-- Numeric members at the head of an object insert their fields in the members' order, before
the rest of the object is read. -/
theorem extendFromObject_numbers_append (fs : FieldWeights) (ms : List (String × JsonNumber))
    (tail : List (String × Json)) :
    fs.extendFromObject ((ms.map fun m => (m.1, .number m.2)) ++ tail) =
      (fs.insertAll (ms.map numberEntry)).extendFromObject tail := by
  induction ms generalizing fs with
  | nil => rfl
  | cons m rest ih =>
    rw [List.map_cons, List.cons_append, extendFromObject]
    exact ih _

/-- Members that are all numbers insert their fields in the members' order. -/
theorem extendFromObject_numbers (fs : FieldWeights) (ms : List (String × JsonNumber)) :
    fs.extendFromObject (ms.map fun m => (m.1, .number m.2)) =
      .ok (fs.insertAll (ms.map numberEntry)) := by
  rw [← List.append_nil (ms.map _), extendFromObject_numbers_append]
  rfl

/-- An array read without error holds list texts only. -/
theorem strings_of_extendFromArray {fs fs' : FieldWeights} {items : List Json}
    (h : fs.extendFromArray items = .ok fs') : ∃ strs : List String, items = strs.map .string := by
  induction items generalizing fs with
  | nil => exact ⟨[], rfl⟩
  | cons item rest ih =>
    cases item with
    | string list =>
      rw [extendFromArray] at h
      cases hx : fs.extend list with
      | error e =>
        rw [hx] at h
        cases h
      | ok fs'' =>
        rw [hx] at h
        obtain ⟨strs, rfl⟩ := ih h
        exact ⟨list :: strs, rfl⟩
    | _ => cases h

/-- An object read without error holds numbers only. -/
theorem numbers_of_extendFromObject {fs fs' : FieldWeights} {ms : List (String × Json)}
    (h : fs.extendFromObject ms = .ok fs') :
    ∃ ns : List (String × JsonNumber), ms = ns.map fun m => (m.1, .number m.2) := by
  induction ms generalizing fs with
  | nil => exact ⟨[], rfl⟩
  | cons m rest ih =>
    obtain ⟨name, value⟩ := m
    cases value with
    | number n =>
      obtain ⟨ns, rfl⟩ := ih h
      exact ⟨(name, n) :: ns, rfl⟩
    | _ => cases h

/-- The entries a JSON field list asks to insert, in order: those of its list texts, joined, or
its numeric members with trimmed names and weights narrowed to singles. -/
def jsonEntries : Json → List (String × Float32)
  | .string list => (entriesOf list).1
  | .array items => (entriesOf (",".intercalate (items.filterMap Json.str?))).1
  | .object members =>
    members.filterMap fun m => m.2.double?.map fun x => (Text.trimBlank m.1, doubleToSingle x)
  | _ => []

/-- A field list read from JSON is the run of the entries the JSON asks for. -/
theorem eq_ofPairs_of_ofJson {j : Json} {fs : FieldWeights} (h : ofJson j = .ok fs) :
    fs = ofPairs (jsonEntries j) := by
  cases j with
  | string list => exact (extend_eq_ok_iff.1 h).2
  | array items =>
    obtain ⟨strs, rfl⟩ := strings_of_extendFromArray h
    have hstrs : (strs.map Json.string).filterMap Json.str? = strs := by
      rw [List.filterMap_map]
      exact List.filterMap_some
    rw [ofJson, extendFromArray_strings] at h
    rw [jsonEntries, hstrs]
    exact (extend_eq_ok_iff.1 h).2
  | object members =>
    obtain ⟨ns, rfl⟩ := numbers_of_extendFromObject h
    rw [ofJson, extendFromObject_numbers, Except.ok.injEq] at h
    rw [← h, jsonEntries, List.filterMap_map]
    exact congrArg ofPairs (congrFun List.filterMap_eq_map ns).symm
  | _ => cases h

/-! ### Every field list the library builds -/

/-- Every run of insertions, from the empty list or from any field list the library builds,
gives each name once, in the order of its first insertion, with the weight of its last insertion,
and the weight of a name is that weight, or none for a name never inserted. The fields of a list of
names, of a list text, whatever fields it is added to, and of every JSON form are such runs, and
the unweighted list keeps the names in order, each of weight one. -/
theorem insertions_recorded :
    (∀ ps, Records ps (ofPairs ps)) ∧
    (∀ (fs : FieldWeights) ps, Records (fs.entries ++ ps) (fs.insertAll ps)) ∧
    (∀ ns, Records (ns.map fun n => (n, 1)) (ofNames ns)) ∧
    (∀ (fs : FieldWeights) list,
      Records (fs.entries ++ (entriesOf list).1) (fs.extendFromList list).1) ∧
    (∀ list fs, parse list = .ok fs → Records (entriesOf list).1 fs) ∧
    (∀ j fs, ofJson j = .ok fs → Records (jsonEntries j) fs) ∧
    (∀ fs : FieldWeights, fs.unweighted.entries = fs.names.map fun n => (n, 1)) := by
  refine ⟨records_ofPairs, records_insertAll, fun ns => ?_,
    fun fs list => ?_, fun list fs h => ?_, fun j fs h => ?_, entries_unweighted⟩
  · rw [ofNames_eq_ofPairs]
    exact records_ofPairs _
  · rw [extendFromList, extendFromEntries_eq]
    exact records_insertAll fs _
  · rw [(extend_eq_ok_iff.1 h).2, ← ofPairs_eq_insertAll]
    exact records_ofPairs _
  · rw [eq_ofPairs_of_ofJson h]
    exact records_ofPairs _

/-- Inserting `a` again into the fields of `a` and `b` keeps `a` first, with the new weight. -/
theorem insertions_recorded_first_position :
    Records ((ofNames ["a", "b"]).entries ++ [("a", 3)])
      ((ofNames ["a", "b"]).insertAll [("a", 3)]) :=
  insertions_recorded.2.1 _ _

end FieldWeights

end ConceptQuery
