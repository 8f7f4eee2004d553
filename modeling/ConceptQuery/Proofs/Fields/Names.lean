import Mathlib
import ConceptQuery.Query.Fields

/-!
# The names of a field list

A field list names each field once: inserting a name that is already there changes its weight in
place, and a new name goes to the end (`names_insert`). A field list carries the distinctness of
its names, so every list the library builds has it without further proof.

The unweighted list is the same names in the same order, each of weight one
(`entries_unweighted`): it has the same names and as many fields, and a list whose weights are
all one is its own unweighted list (`unweighted_eq_self`).
-/

namespace ConceptQuery

namespace FieldWeights

/-! ### Setting a weight -/

/-- A new name is appended with its weight. -/
theorem setWeight_of_not_mem {name : String} {w : Float32} {es : List (String × Float32)}
    (h : name ∉ es.map Prod.fst) : setWeight name w es = es ++ [(name, w)] := by
  induction es with
  | nil => rfl
  | cons e rest ih =>
    obtain ⟨n, v⟩ := e
    simp only [List.map_cons, List.mem_cons, not_or] at h
    have hne : (n == name) = false := beq_false_of_ne (Ne.symm h.1)
    simp only [setWeight, hne, Bool.false_eq_true, if_false, ih h.2, List.cons_append]

/-- Setting a weight of one keeps every weight one. -/
theorem weight_eq_one_of_mem_setWeight {name : String} {es : List (String × Float32)}
    (h : ∀ e ∈ es, e.2 = 1) : ∀ e ∈ setWeight name 1 es, e.2 = 1 := by
  induction es with
  | nil => simp [setWeight]
  | cons e es ih =>
    intro x hx
    rw [setWeight] at hx
    split at hx
    · rcases List.mem_cons.1 hx with rfl | hx
      · rfl
      · exact h x (List.mem_cons_of_mem _ hx)
    · rcases List.mem_cons.1 hx with rfl | hx
      · exact h _ List.mem_cons_self
      · exact ih (fun y hy => h y (List.mem_cons_of_mem _ hy)) x hx

/-- Inserting a field keeps the names, or appends the name when it is new. -/
theorem names_insert (fs : FieldWeights) (name : String) (w : Float32) :
    (fs.insert name w).names = if name ∈ fs.names then fs.names else fs.names ++ [name] :=
  names_setWeight name w fs.entries

/-! ### The unweighted list -/

/-- Inserting fields of distinct new names appends them in order. -/
theorem entries_foldl_insert {ps : List (String × Float32)} {fs : FieldWeights}
    (hps : (ps.map Prod.fst).Nodup) (hfresh : ∀ p ∈ ps, p.1 ∉ fs.names) :
    (ps.foldl (fun acc p => acc.insert p.1 p.2) fs).entries = fs.entries ++ ps := by
  induction ps generalizing fs with
  | nil => simp
  | cons p ps ih =>
    rw [List.map_cons, List.nodup_cons] at hps
    have hp : p.1 ∉ fs.names := hfresh p List.mem_cons_self
    have hins : (fs.insert p.1 p.2).entries = fs.entries ++ [p] := setWeight_of_not_mem hp
    -- The later names are neither among the old names nor `p.1`.
    have hfresh' : ∀ q ∈ ps, q.1 ∉ (fs.insert p.1 p.2).names := by
      intro q hq hmem
      rw [names_insert, if_neg hp, List.mem_append, List.mem_singleton] at hmem
      rcases hmem with hmem | heq
      · exact hfresh q (List.mem_cons_of_mem p hq) hmem
      · exact hps.1 (heq ▸ List.mem_map_of_mem hq)
    rw [List.foldl_cons, ih hps.2 hfresh', hins, List.append_assoc, List.singleton_append]

/-- Inserting new names of weight one appends them in order. -/
theorem entries_foldl_insert_one {ns : List String} {fs : FieldWeights} (hns : ns.Nodup)
    (hfresh : ∀ n ∈ ns, n ∉ fs.names) :
    (ns.foldl (fun acc n => acc.insert n 1) fs).entries = fs.entries ++ ns.map fun n => (n, 1) := by
  have h := @entries_foldl_insert (ns.map fun n => (n, 1)) fs
    (by simpa [Function.comp_def] using hns) (by simpa using hfresh)
  rwa [List.foldl_map] at h

/-- The unweighted list is the same names, in order, each of weight one. -/
theorem entries_unweighted (fs : FieldWeights) :
    fs.unweighted.entries = fs.names.map fun n => (n, 1) := by
  rw [unweighted, ofNames,
    entries_foldl_insert_one fs.nodup_names (fun _ _ hn => by simp [names, empty] at hn)]
  rfl

/-- The unweighted list has the same names. -/
theorem names_unweighted (fs : FieldWeights) : fs.unweighted.names = fs.names := by
  rw [names, entries_unweighted, List.map_map]
  exact List.map_id _

/-- The unweighted list has as many fields. -/
theorem size_unweighted (fs : FieldWeights) : fs.unweighted.size = fs.size := by
  rw [size, entries_unweighted, List.length_map, names, List.length_map, size]

/-- Fields all of weight one are their names, each of weight one. -/
theorem names_map_of_weight_eq_one {fs : FieldWeights} (h : ∀ e ∈ fs.entries, e.2 = 1) :
    fs.names.map (fun n => (n, 1)) = fs.entries := by
  rw [names, List.map_map]
  conv_rhs => rw [← List.map_id fs.entries]
  exact List.map_congr_left fun e he => Prod.ext rfl (h e he).symm

/-- A list whose weights are all one is its own unweighted list. -/
theorem unweighted_eq_self {fs : FieldWeights} (h : ∀ e ∈ fs.entries, e.2 = 1) :
    fs.unweighted = fs :=
  FieldWeights.ext (by rw [entries_unweighted, names_map_of_weight_eq_one h])

end FieldWeights

end ConceptQuery
