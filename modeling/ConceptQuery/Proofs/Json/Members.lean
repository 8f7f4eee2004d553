import Mathlib
import ConceptQuery.Json.Value

/-!
# Members sorted by key

An object read as a map keeps its members sorted by key, each key once, and inserting a member
keeps it so (`Json.Members.sorted_insert`): the new member replaces the member of its key or
stands where its key sorts, and every member of another key stays (`Json.Members.mem_insert`).
Inserting members of distinct new keys one after the other therefore gives sorted members holding
the old ones and all the new ones, in whatever order they came (`Json.Members.foldl_insert`).

A key that sorts below every key goes first (`Json.Members.insert_of_lt`) and one that sorts above
a first run of members goes after it (`Json.Members.insert_append_of_lt`), so an object built member
by member from known keys has a layout known in advance.
-/

namespace ConceptQuery

namespace Json

namespace Members

/-- The keys strictly increase: sorted, each key once. -/
def Sorted (ms : Members) : Prop := (ms.map Prod.fst).Pairwise (· < ·)

/-- No members are sorted. -/
theorem sorted_nil : Sorted [] := List.Pairwise.nil

/-- Members are sorted when the first key is below the others and the rest are sorted. -/
theorem sorted_cons {p : String × Json} {ms : Members} :
    Sorted (p :: ms) ↔ (∀ q ∈ ms, p.1 < q.1) ∧ Sorted ms := by
  simp [Sorted, List.pairwise_cons]

/-- A key below every key of the members goes first. -/
theorem insert_of_lt {k : String} {v : Json} {ms : Members} (h : ∀ q ∈ ms, k < q.1) :
    insert k v ms = (k, v) :: ms := by
  cases ms with
  | nil => rfl
  | cons q rest =>
    obtain ⟨key, value⟩ := q
    rw [insert, if_pos (h _ List.mem_cons_self)]

/-- A key above every key of a first run of members is inserted after it. -/
theorem insert_append_of_lt {k : String} {v : Json} {l₁ l₂ : Members}
    (h : ∀ q ∈ l₁, q.1 < k) : insert k v (l₁ ++ l₂) = l₁ ++ insert k v l₂ := by
  induction l₁ with
  | nil => rfl
  | cons q rest ih =>
    obtain ⟨key, value⟩ := q
    have hlt : key < k := h _ List.mem_cons_self
    have hne : (k == key) = false := beq_false_of_ne (ne_of_gt hlt)
    rw [List.cons_append, insert, if_neg (lt_asymm hlt), hne, if_neg Bool.false_ne_true,
      ih fun q hq => h q (List.mem_cons_of_mem _ hq), List.cons_append]

/-- After inserting into sorted members, a member is the inserted one or a member of another key
that was there. -/
theorem mem_insert {k : String} {v : Json} {ms : Members} (h : Sorted ms) {p : String × Json} :
    p ∈ insert k v ms ↔ p = (k, v) ∨ (p ∈ ms ∧ p.1 ≠ k) := by
  induction ms with
  | nil => simp [insert]
  | cons q rest ih =>
    obtain ⟨key, value⟩ := q
    obtain ⟨hhead, hrest⟩ := sorted_cons.1 h
    -- Every member after the first has a greater key.
    have hgt : ∀ r ∈ rest, key < r.1 := hhead
    by_cases hlt : k < key
    · -- The new member goes first; every old key is greater.
      have hold : ∀ r ∈ (key, value) :: rest, r.1 ≠ k := by
        intro r hr
        rcases List.mem_cons.1 hr with rfl | hr
        · exact ne_of_gt hlt
        · exact ne_of_gt (lt_trans hlt (hgt r hr))
      rw [insert, if_pos hlt, List.mem_cons]
      exact or_congr_right ⟨fun hp => ⟨hp, hold p hp⟩, And.left⟩
    · by_cases heq : k = key
      · -- The new member replaces the first, and every later key is greater.
        subst heq
        rw [insert, if_neg hlt, beq_self_eq_true, if_pos rfl, List.mem_cons, List.mem_cons]
        constructor
        · rintro (hp | hp)
          · exact .inl hp
          · exact .inr ⟨.inr hp, ne_of_gt (hgt p hp)⟩
        · rintro (hp | ⟨hp | hp, hpk⟩)
          · exact .inl hp
          · exact absurd (by rw [hp]) hpk
          · exact .inr hp
      · -- The key sorts after the first member, which stays in front.
        have hkey : key ≠ k := Ne.symm heq
        rw [insert, if_neg hlt, beq_false_of_ne heq, if_neg Bool.false_ne_true, List.mem_cons,
          ih hrest, List.mem_cons]
        constructor
        · rintro (hp | hp | ⟨hp, hpk⟩)
          · exact .inr ⟨.inl hp, by rw [hp]; exact hkey⟩
          · exact .inl hp
          · exact .inr ⟨.inr hp, hpk⟩
        · rintro (hp | ⟨hp | hp, hpk⟩)
          · exact .inr (.inl hp)
          · exact .inl hp
          · exact .inr (.inr ⟨hp, hpk⟩)

/-- Inserting into sorted members keeps them sorted. -/
theorem sorted_insert {k : String} {v : Json} {ms : Members} (h : Sorted ms) :
    Sorted (insert k v ms) := by
  induction ms with
  | nil => exact sorted_cons.2 ⟨by simp, sorted_nil⟩
  | cons q rest ih =>
    obtain ⟨key, value⟩ := q
    obtain ⟨hhead, hrest⟩ := sorted_cons.1 h
    by_cases hlt : k < key
    · rw [insert, if_pos hlt]
      refine sorted_cons.2 ⟨fun r hr => ?_, h⟩
      rcases List.mem_cons.1 hr with rfl | hr
      · exact hlt
      · exact lt_trans hlt (hhead r hr)
    · by_cases heq : k = key
      · subst heq
        rw [insert, if_neg hlt, beq_self_eq_true, if_pos rfl]
        exact sorted_cons.2 ⟨hhead, hrest⟩
      · -- The first member stays in front of everything inserted after it.
        have hgt : key < k := lt_of_le_of_ne (not_lt.1 hlt) (Ne.symm heq)
        rw [insert, if_neg hlt, beq_false_of_ne heq, if_neg Bool.false_ne_true]
        refine sorted_cons.2 ⟨fun r hr => ?_, ih hrest⟩
        rcases (mem_insert hrest).1 hr with rfl | ⟨hr, -⟩
        · exact hgt
        · exact hhead r hr

/-- Inserting members of distinct new keys, one after the other, into sorted members gives sorted
members holding the old ones and all the new ones. -/
theorem foldl_insert (xs : List (String × Json)) {acc : Members} (hacc : Sorted acc)
    (hnodup : (xs.map Prod.fst).Nodup) (hfresh : ∀ x ∈ xs, ∀ q ∈ acc, q.1 ≠ x.1) :
    Sorted (xs.foldl (fun ms x => insert x.1 x.2 ms) acc) ∧
      ∀ p, p ∈ xs.foldl (fun ms x => insert x.1 x.2 ms) acc ↔ p ∈ acc ∨ p ∈ xs := by
  induction xs generalizing acc with
  | nil => exact ⟨hacc, by simp⟩
  | cons x rest ih =>
    rw [List.map_cons, List.nodup_cons] at hnodup
    -- After the first insertion the later keys are still new.
    have hfresh' : ∀ y ∈ rest, ∀ q ∈ insert x.1 x.2 acc, q.1 ≠ y.1 := by
      intro y hy q hq
      rcases (mem_insert hacc).1 hq with rfl | ⟨hq, -⟩
      · exact fun h => hnodup.1 (h ▸ List.mem_map_of_mem hy)
      · exact hfresh y (List.mem_cons_of_mem _ hy) q hq
    obtain ⟨hsorted, hmem⟩ := ih (sorted_insert hacc) hnodup.2 hfresh'
    refine ⟨hsorted, fun p => ?_⟩
    rw [List.foldl_cons, hmem, mem_insert hacc, List.mem_cons]
    constructor
    · rintro ((rfl | ⟨hp, -⟩) | hp)
      · exact .inr (.inl rfl)
      · exact .inl hp
      · exact .inr (.inr hp)
    · rintro (hp | rfl | hp)
      · exact .inl (.inr ⟨hp, hfresh x List.mem_cons_self p hp⟩)
      · exact .inl (.inl rfl)
      · exact .inr hp

end Members

end Json

end ConceptQuery
