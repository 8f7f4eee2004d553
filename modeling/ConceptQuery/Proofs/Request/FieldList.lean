import ConceptQuery.Proofs.Fields.Names
import ConceptQuery.Proofs.Json.Members
import ConceptQuery.Proofs.Weight.Widen
import ConceptQuery.Request.Build

/-!
# Field lists written and read back

A draft writes its fields as an array of names while no weight was given, and as an object from
names to widened weights once one was (`FieldList.toJson`). Reading either form back gives the
draft's fields (`FieldList.read_toJson`): the same list in the array form, and in the object form
the same names with the same weights, in sorted name order.

Both forms need conditions the draft does not check (`FieldList.Writable`). Every name is trimmed
when it is read, so it must have no blank at either end, and a weight must be finite, since the
others are written `null`. An array entry is read as a list text, so a name written there must be
non-empty and hold no comma and no caret (`FieldWeights.PlainName`). The rest holds of every field
list a draft can hold (`FieldList.Wellformed`): its names are distinct, and every weight is one
while none was given.
-/

namespace ConceptQuery

/-! ### Widened weights -/

/-- A finite single is written as its double. -/
theorem widened_of_isFinite {x : Float32} (h : x.isFinite = true) :
    widened x = .number (.double (singleToDouble x)) := if_pos h

/-- A finite weight is told apart from every other weight by its widened form. -/
theorem widened_inj {x y : Float32} (hy : y.isFinite = true) (h : widened x = widened y) :
    x = y := by
  rw [widened_of_isFinite hy] at h
  by_cases hx : x.isFinite = true
  · rw [widened_of_isFinite hx, Json.number.injEq, JsonNumber.double.injEq] at h
    rw [← Weight.doubleToSingle_singleToDouble x, h, Weight.doubleToSingle_singleToDouble]
  · rw [widened, if_neg hx] at h
    cases h

/-- Entries written with their weights widened are equal only when the entries are. -/
theorem widened_entry_inj {x y : String × Float32} (hy : y.2.isFinite = true)
    (h : (x.1, widened x.2) = (y.1, widened y.2)) : x = y :=
  Prod.ext (Prod.mk.inj h).1 (widened_inj hy (Prod.mk.inj h).2)

namespace FieldWeights

/-! ### Names in an array -/

/-- A name that an array of list texts reads back as itself. -/
structure PlainName (n : String) : Prop where
  /-- It is not empty. -/
  nonempty : n ≠ ""
  /-- It has no blank at either end. -/
  trimmed : Text.trimBlank n = n
  /-- It holds no comma. -/
  no_comma : ',' ∉ n.toList
  /-- It holds no caret. -/
  no_caret : '^' ∉ n.toList

/-- A name without a comma is one piece of a list. -/
theorem splitToList_comma {n : String} (h : ',' ∉ n.toList) :
    n.splitToList (· == ',') = [n] := by
  rw [String.splitToList_of_valid, List.splitOnP_eq_singleton fun c hc => ?_, List.map_singleton,
    String.ofList_toList]
  exact beq_false_of_ne fun heq => h (heq ▸ hc)

/-- An entry without a caret is a name of weight one. -/
theorem readEntry_of_no_caret {n : String} (h : '^' ∉ n.toList) : readEntry n = .ok (n, 1) := by
  have hdrop : n.toList.dropWhile (· != '^') = [] :=
    List.dropWhile_eq_nil_iff.2 fun c hc => bne_iff_ne.2 fun heq => h (heq ▸ hc)
  have hsplit : splitFirst '^' n.toList = none := by
    unfold splitFirst
    rw [List.span_eq_takeWhile_dropWhile, hdrop]
  rw [readEntry, hsplit]

/-- A plain name is read as one field of weight one. -/
theorem extend_plainName (fs : FieldWeights) {n : String} (h : PlainName n) :
    fs.extend n = .ok (fs.insert n 1) := by
  have hne : n.isEmpty = false :=
    Bool.eq_false_iff.2 fun he => h.nonempty (String.isEmpty_iff.1 he)
  unfold extend extendFromList
  rw [splitToList_comma h.no_comma]
  simp only [extendFromEntries, hne, Bool.false_eq_true, if_false, h.trimmed,
    readEntry_of_no_caret h.no_caret]

/-- An array of plain names reads as those names, each of weight one, in order. -/
theorem extendFromArray_plainNames (fs : FieldWeights) {names : List String}
    (h : ∀ n ∈ names, PlainName n) :
    fs.extendFromArray (names.map .string) =
      .ok (names.foldl (fun acc n => acc.insert n 1) fs) := by
  induction names generalizing fs with
  | nil => rfl
  | cons n rest ih =>
    rw [List.map_cons, extendFromArray, extend_plainName fs (h n List.mem_cons_self)]
    exact ih _ fun m hm => h m (List.mem_cons_of_mem n hm)

/-- An array of plain names reads as those names, each of weight one. -/
theorem ofJson_ofStrings {names : List String} (h : ∀ n ∈ names, PlainName n) :
    ofJson (Json.ofStrings names) = .ok (ofNames names) :=
  extendFromArray_plainNames empty h

/-! ### Members from names to widened weights -/

/-- Members from trimmed names to widened finite weights read as those weights, inserted in the
members' order. -/
theorem extendFromObject_widened (fs : FieldWeights) {ms : Json.Members}
    (h : ∀ q ∈ ms,
      Text.trimBlank q.1 = q.1 ∧ ∃ w : Float32, w.isFinite = true ∧ q.2 = widened w) :
    ∃ ps : List (String × Float32), ms = ps.map (fun p => (p.1, widened p.2)) ∧
      fs.extendFromObject ms = .ok (ps.foldl (fun acc p => acc.insert p.1 p.2) fs) := by
  induction ms generalizing fs with
  | nil => exact ⟨[], rfl, rfl⟩
  | cons q rest ih =>
    obtain ⟨name, value⟩ := q
    obtain ⟨htrim, w, hw, hq⟩ := h (name, value) List.mem_cons_self
    obtain ⟨ps, hps, hread⟩ := ih (fs.insert name w) fun r hr => h r (List.mem_cons_of_mem _ hr)
    have hvalue : value = .number (.double (singleToDouble w)) := hq.trans (widened_of_isFinite hw)
    refine ⟨(name, w) :: ps, by rw [List.map_cons, ← hps, ← hq], ?_⟩
    subst hvalue
    -- The member is read back as the weight it was widened from.
    show extendFromObject
      (fs.insert (Text.trimBlank name) (doubleToSingle (singleToDouble w))) rest = _
    rw [htrim, Weight.doubleToSingle_singleToDouble, hread, List.foldl_cons]

/-- Fields of distinct names written as members, each weight widened: the members are sorted by
name, and each is a field with its weight widened. -/
theorem members_widened {es : List (String × Float32)} (hes : (es.map Prod.fst).Nodup) :
    Json.Members.Sorted ((es.map fun e => (e.1, widened e.2)).foldl
        (fun ms x => Json.Members.insert x.1 x.2 ms) []) ∧
      ∀ q, q ∈ (es.map fun e => (e.1, widened e.2)).foldl
        (fun ms x => Json.Members.insert x.1 x.2 ms) [] ↔ ∃ e ∈ es, (e.1, widened e.2) = q := by
  have hkeys : ((es.map fun e => (e.1, widened e.2)).map Prod.fst).Nodup := by
    simpa [List.map_map, Function.comp_def] using hes
  obtain ⟨hsorted, hmem⟩ := Json.Members.foldl_insert _ Json.Members.sorted_nil hkeys (by simp)
  refine ⟨hsorted, fun q => ?_⟩
  rw [hmem, List.mem_map]
  simp

/-- Weights read back from the widened members of finite fields are the fields' weights: a
finite weight is told apart by its widened form. -/
theorem mem_of_map_widened {ps es : List (String × Float32)} {ms : Json.Members}
    (hps : ms = ps.map fun p => (p.1, widened p.2))
    (hmem : ∀ q, q ∈ ms ↔ ∃ e ∈ es, (e.1, widened e.2) = q)
    (hfin : ∀ e ∈ es, e.2.isFinite = true) (e : String × Float32) : e ∈ ps ↔ e ∈ es := by
  constructor
  · intro he
    obtain ⟨e', he', heq⟩ := (hmem _).1 (hps ▸ List.mem_map_of_mem he)
    rw [widened_entry_inj (hfin e' he') heq.symm]
    exact he'
  · intro he
    obtain ⟨p, hp, heq⟩ := List.mem_map.1 (hps ▸ (hmem _).2 ⟨e, he, rfl⟩)
    rw [← widened_entry_inj (hfin e he) heq]
    exact hp

end FieldWeights

namespace FieldList

/-! ### Field lists of drafts -/

/-- What every field list of a draft satisfies: every weight is one while no weight was
given. -/
structure Wellformed (l : FieldList) : Prop where
  /-- Until a weight is given, every field weighs one. -/
  weight_eq_one : l.weighted = false → ∀ e ∈ l.fields.entries, e.2 = 1

/-- The draft's first field list has no fields. -/
theorem wellformed_empty : Wellformed {} :=
  ⟨fun _ e he => by simp [FieldWeights.empty] at he⟩

/-- A name added without a weight has weight one. -/
theorem Wellformed.add {l : FieldList} (h : l.Wellformed) (name : String) :
    (l.add name).Wellformed :=
  ⟨fun hw => FieldWeights.weight_eq_one_of_mem_setWeight (h.weight_eq_one hw)⟩

/-- A name added with a weight makes the list weighted, so any weights are allowed. -/
theorem wellformed_addWeighted (l : FieldList) (name : String) (w : Float32) :
    (l.addWeighted name w).Wellformed :=
  ⟨fun hw => nomatch hw⟩

/-- Adding names one after the other keeps a field list well formed. -/
theorem Wellformed.foldl_add {l : FieldList} (h : l.Wellformed) (names : List String) :
    (names.foldl FieldList.add l).Wellformed := by
  induction names generalizing l with
  | nil => exact h
  | cons n rest ih => exact ih (h.add n)

/-- What a field list needs to be written and read back as itself. -/
structure Writable (l : FieldList) : Prop where
  /-- There is a field. -/
  nonempty : l.fields.entries ≠ []
  /-- Every weight is finite. -/
  finite : ∀ e ∈ l.fields.entries, e.2.isFinite = true
  /-- No name has a blank at either end. -/
  trimmed : ∀ n ∈ l.fields.names, Text.trimBlank n = n
  /-- Without weights, every name is plain. -/
  plain : l.weighted = false →
    ∀ n ∈ l.fields.names, n ≠ "" ∧ ',' ∉ n.toList ∧ '^' ∉ n.toList

/-- What written fields read back as: the list itself in the array form; in the object form the
same fields with the same weights, in sorted name order. -/
def ReadsAs (l : FieldList) (fs : FieldWeights) : Prop :=
  (l.weighted = false → fs = l.fields) ∧
    (l.weighted = true →
      (∀ e, e ∈ fs.entries ↔ e ∈ l.fields.entries) ∧ fs.names.Pairwise (· < ·))

/-- Fields read back from a non-empty list are not empty. -/
theorem ReadsAs.entries_ne_nil {l : FieldList} {fs : FieldWeights} (h : l.ReadsAs fs)
    (hne : l.fields.entries ≠ []) : fs.entries ≠ [] := by
  cases hw : l.weighted with
  | false =>
    rw [h.1 hw]
    exact hne
  | true =>
    obtain ⟨e, he⟩ := List.exists_mem_of_ne_nil _ hne
    exact List.ne_nil_of_mem (((h.2 hw).1 e).2 he)

/-! ### Writing and reading back -/

/-- A field list given no weight is written as an array of its names. -/
theorem toJson_of_unweighted (kind : QueryKind) {l : FieldList} (hne : l.fields.entries ≠ [])
    (hw : l.weighted = false) : l.toJson kind = .ok (Json.ofStrings l.fields.names) := by
  have hempty : l.fields.isEmpty = false := List.isEmpty_eq_false_iff.2 hne
  simp only [toJson, hempty, hw, Bool.false_eq_true, if_false]

/-- A field list given a weight is written as an object from names to widened weights. -/
theorem toJson_of_weighted (kind : QueryKind) {l : FieldList} (hne : l.fields.entries ≠ [])
    (hw : l.weighted = true) :
    l.toJson kind = .ok (.object ((l.fields.entries.map fun e => (e.1, widened e.2)).foldl
      (fun ms x => Json.Members.insert x.1 x.2 ms) [])) := by
  have hempty : l.fields.isEmpty = false := List.isEmpty_eq_false_iff.2 hne
  simp only [toJson, hempty, hw, Bool.false_eq_true, if_false, if_true, List.foldl_map]

/-- The array form reads back as the list itself. -/
theorem read_toJson_unweighted (kind : QueryKind) {l : FieldList} (hl : l.Wellformed)
    (h : l.Writable) (hw : l.weighted = false) :
    ∃ j, l.toJson kind = .ok j ∧ FieldWeights.ofJson j = .ok l.fields := by
  have hplain : ∀ n ∈ l.fields.names, FieldWeights.PlainName n := fun n hn =>
    have ⟨hne, hcomma, hcaret⟩ := h.plain hw n hn
    ⟨hne, h.trimmed n hn, hcomma, hcaret⟩
  refine ⟨_, toJson_of_unweighted kind h.nonempty hw, ?_⟩
  rw [FieldWeights.ofJson_ofStrings hplain]
  exact congrArg Except.ok (FieldWeights.unweighted_eq_self (hl.weight_eq_one hw))

/-- The object form reads back as the same fields with the same weights, in sorted name order. -/
theorem read_toJson_weighted (kind : QueryKind) {l : FieldList} (h : l.Writable)
    (hw : l.weighted = true) :
    ∃ j fs, l.toJson kind = .ok j ∧ FieldWeights.ofJson j = .ok fs ∧
      (∀ e, e ∈ fs.entries ↔ e ∈ l.fields.entries) ∧ fs.names.Pairwise (· < ·) := by
  obtain ⟨hsorted, hmem⟩ := FieldWeights.members_widened l.fields.nodup
  -- Every member is a trimmed name with a widened finite weight.
  have hms : ∀ q ∈ (l.fields.entries.map fun e => (e.1, widened e.2)).foldl
      (fun ms x => Json.Members.insert x.1 x.2 ms) [],
      Text.trimBlank q.1 = q.1 ∧ ∃ w : Float32, w.isFinite = true ∧ q.2 = widened w := by
    intro q hq
    obtain ⟨e, he, rfl⟩ := (hmem q).1 hq
    exact ⟨h.trimmed _ (List.mem_map_of_mem he), e.2, h.finite e he, rfl⟩
  obtain ⟨ps, hps, hread⟩ := FieldWeights.extendFromObject_widened .empty hms
  have hkeys : ps.map Prod.fst = ((l.fields.entries.map fun e => (e.1, widened e.2)).foldl
      (fun ms x => Json.Members.insert x.1 x.2 ms) []).map Prod.fst := by
    rw [hps, List.map_map]
    rfl
  -- The names are new each time, so the fields read are the members' weights in member order.
  have hentries :
      (ps.foldl (fun (acc : FieldWeights) p => acc.insert p.1 p.2) .empty).entries = ps := by
    rw [FieldWeights.entries_foldl_insert (hkeys ▸ hsorted.nodup)
      (by simp [FieldWeights.names, FieldWeights.empty])]
    rfl
  refine ⟨_, _, toJson_of_weighted kind h.nonempty hw, hread, ?_, ?_⟩
  · rw [hentries]
    exact FieldWeights.mem_of_map_widened hps hmem h.finite
  · rw [FieldWeights.names, hentries, hkeys]
    exact hsorted

/-- A draft's fields, written in either form, read back as themselves. -/
theorem read_toJson (kind : QueryKind) {l : FieldList} (hl : l.Wellformed) (h : l.Writable) :
    ∃ j fs, l.toJson kind = .ok j ∧ FieldWeights.ofJson j = .ok fs ∧ l.ReadsAs fs := by
  cases hw : l.weighted with
  | false =>
    obtain ⟨j, hj, hread⟩ := read_toJson_unweighted kind hl h hw
    refine ⟨j, l.fields, hj, hread, ?_⟩
    unfold ReadsAs
    exact ⟨fun _ => rfl, fun h' => absurd (hw.symm.trans h') Bool.false_ne_true⟩
  | true =>
    obtain ⟨j, fs, hj, hread, hmem, hsorted⟩ := read_toJson_weighted kind h hw
    refine ⟨j, fs, hj, hread, ?_⟩
    unfold ReadsAs
    exact ⟨fun h' => absurd (hw.symm.trans h') Bool.noConfusion, fun _ => ⟨hmem, hsorted⟩⟩

end FieldList

end ConceptQuery
