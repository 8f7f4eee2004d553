import ConceptQuery.Regex.Search

/-!
# Matches in order

A search starts its threads at the place it is asked to look from or later, and a thread keeps the
place where its match started as it moves on. So every match a search reports starts at or after
that place, ends at or after its start, and ends within the text (`Automaton.search_bounds`): each
step keeps the threads' starts between the first place and the current one
(`Automaton.startsWithin_follow`, `Automaton.step_bounds`), and the run carries this from place to
place (`Automaton.run_bounds`).

Each next search for all matches starts where the last match ended, or one character further, so
the matches of a text come in order and apart (`Automaton.findAll_ordered`): each starts at or
after the end of the one before, and all lie within the text (`Regex.Ordered`).
-/

namespace ConceptQuery.Regex

/-- Ranges of character positions in order and apart, from `a` on and within `n`: each starts at or
after the end of the one before, and none ends before it starts. -/
inductive Ordered (n : Nat) : Nat → List (Nat × Nat) → Prop
  /-- No ranges, from a place within the text. -/
  | nil {a : Nat} : a ≤ n → Ordered n a []
  /-- A range that starts at or after the place and does not end before it starts, then ranges from
  its end. -/
  | cons {a s e : Nat} {rest : List (Nat × Nat)} :
      a ≤ s → s ≤ e → Ordered n e rest → Ordered n a ((s, e) :: rest)

namespace Ordered

variable {n a : Nat} {l : List (Nat × Nat)}

/-- Ordered ranges start from a place within the text. -/
theorem le (h : Ordered n a l) : a ≤ n := by
  induction h with
  | nil h => exact h
  | cons has hse _ ih => omega

/-- Ordered ranges stand between where they start from and the end. -/
theorem bounds (h : Ordered n a l) : ∀ m ∈ l, a ≤ m.1 ∧ m.1 ≤ m.2 ∧ m.2 ≤ n := by
  induction h with
  | nil => simp
  | @cons a s e rest has hse hrest ih =>
    have hen := hrest.le
    intro m hm
    rcases List.mem_cons.1 hm with rfl | hm
    · exact ⟨has, hse, hen⟩
    · have := ih m hm
      omega

/-- Ranges ordered from a place are ordered from any place before it. -/
theorem of_le {b : Nat} (hab : a ≤ b) (h : Ordered n b l) : Ordered n a l := by
  cases h with
  | nil h => exact .nil (Nat.le_trans hab h)
  | cons hs hse hrest => exact .cons (Nat.le_trans hab hs) hse hrest

/-- Leaving ranges out keeps the others in order. -/
theorem filter (h : Ordered n a l) (p : Nat × Nat → Bool) : Ordered n a (l.filter p) := by
  induction h with
  | nil h => exact .nil h
  | @cons a s e rest has hse _ ih =>
    rw [List.filter_cons]
    split
    · exact .cons has hse ih
    · exact ih.of_le (Nat.le_trans has hse)

end Ordered

/-- The match found so far, if any, started at or after `lo` and ends at or after its start, by
`hi`. -/
def MatchWithin (lo hi : Nat) (found : Option (Nat × Nat)) : Prop :=
  ∀ m ∈ found, lo ≤ m.1 ∧ m.1 ≤ m.2 ∧ m.2 ≤ hi

/-- A match within a bound is within any larger bound. -/
theorem MatchWithin.mono {lo hi hi' : Nat} {found : Option (Nat × Nat)}
    (h : MatchWithin lo hi found) (hle : hi ≤ hi') : MatchWithin lo hi' found :=
  fun m hm => ⟨(h m hm).1, (h m hm).2.1, Nat.le_trans (h m hm).2.2 hle⟩

namespace Threads

/-- Every thread's match started between `lo` and `hi`. -/
def StartsWithin (lo hi : Nat) (ts : Threads) : Prop := ∀ x ∈ ts.list, lo ≤ x.2 ∧ x.2 ≤ hi

/-- No threads start anywhere. -/
theorem startsWithin_empty (lo hi n : Nat) : (Threads.empty n).StartsWithin lo hi := by
  intro x hx
  simp [Threads.empty] at hx

variable {lo hi : Nat} {ts : Threads}

/-- Threads started by a place started by any later place. -/
theorem StartsWithin.mono {hi' : Nat} (h : ts.StartsWithin lo hi) (hle : hi ≤ hi') :
    ts.StartsWithin lo hi' :=
  fun x hx => ⟨(h x hx).1, Nat.le_trans (h x hx).2 hle⟩

/-- A thread with a start in bounds keeps every start in bounds. -/
theorem StartsWithin.push (h : ts.StartsWithin lo hi) {start : Nat} (hlo : lo ≤ start)
    (hhi : start ≤ hi) (sid : Nat) :
    ({ ts with list := ts.list.push (sid, start) } : Threads).StartsWithin lo hi := by
  intro x hx
  rcases Array.mem_push.1 hx with hx | rfl
  · exact h x hx
  · exact ⟨hlo, hhi⟩

end Threads

namespace Automaton

variable (a : Automaton) (text : Array Char)

/-- Following the states that consume nothing adds threads with the given start only. -/
theorem startsWithin_follow (pos start : Nat) {lo hi : Nat} (hlo : lo ≤ start) (hhi : start ≤ hi)
    (fuel : Nat) : ∀ (stack : List Nat) (ts : Threads),
      ts.StartsWithin lo hi → (a.follow text pos start fuel stack ts).StartsWithin lo hi := by
  induction fuel with
  | zero => exact fun _ _ h => h
  | succ fuel ih =>
    intro stack ts h
    cases stack with
    | nil => exact h
    | cons sid stack =>
      rw [follow]
      split
      · exact ih _ _ h
      · -- the state is taken: it becomes a thread, or its ways out are followed
        have h' : ({ ts with seen := ts.seen.set! sid true } : Threads).StartsWithin lo hi := h
        split
        · exact ih _ _ h'
        · split
          · exact ih _ _ h'
          · exact ih _ _ h'
        · exact ih _ _ h'
        · exact ih _ _ (h'.push hlo hhi sid)
        · exact ih _ _ h'

/-- A step moves the threads on with their starts, and a match it ends started with its thread
and ends here. -/
theorem step_bounds (pos : Nat) {lo : Nat} : ∀ (list : List (Nat × Nat)) (next : Threads),
    (∀ x ∈ list, lo ≤ x.2 ∧ x.2 ≤ pos) → next.StartsWithin lo pos →
      (a.step text pos list next).1.StartsWithin lo pos ∧
        ∀ m ∈ (a.step text pos list next).2, lo ≤ m.1 ∧ m.1 ≤ pos ∧ m.2 = pos := by
  intro list
  induction list with
  | nil => exact fun next _ h => ⟨h, fun m hm => by cases hm⟩
  | cons x rest ih =>
    obtain ⟨sid, start⟩ := x
    intro next hlist hnext
    have hx := hlist (sid, start) List.mem_cons_self
    have hrest : ∀ y ∈ rest, lo ≤ y.2 ∧ y.2 ≤ pos := fun y hy => hlist y (List.mem_cons_of_mem _ hy)
    rw [step]
    split
    · -- a match ends the step
      refine ⟨hnext, fun m hm => ?_⟩
      cases hm
      exact ⟨hx.1, hx.2, rfl⟩
    · split
      · split
        · exact ih _ hrest (a.startsWithin_follow text (pos + 1) start hx.1 hx.2 _ _ _ hnext)
        · exact ih _ hrest hnext
      · exact ih _ hrest hnext
    · exact ih _ hrest hnext

/-- A run from `pos` on reports a match that started at or after `lo` and ends within the text,
as long as its threads and the match found so far do. The induction is on the fuel, one place at
a time. -/
theorem run_bounds {lo : Nat} (fuel : Nat) : ∀ (pos : Nat) (current : Threads)
    (found : Option (Nat × Nat)), lo ≤ pos → pos ≤ text.size → current.StartsWithin lo pos →
      MatchWithin lo pos found → MatchWithin lo text.size (a.run text fuel pos current found) := by
  induction fuel with
  | zero => exact fun _ _ _ _ hsize _ hfound => hfound.mono hsize
  | succ fuel ih =>
    intro pos current found hlo hsize hcur hfound
    -- the threads, with a new one started here while nothing was found
    have hthreads : (if found.isNone then a.addThread text pos current a.start pos
        else current).StartsWithin lo pos := by
      split
      · exact a.startsWithin_follow text pos pos hlo (Nat.le_refl pos) _ _ _ hcur
      · exact hcur
    rw [run]
    dsimp only
    generalize (if found.isNone = true then a.addThread text pos current a.start pos
      else current) = cur at hthreads
    split
    · split
      · exact hfound.mono hsize
      · rename_i hgo
        simp only [Bool.or_eq_true, decide_eq_true_eq, not_or] at hgo
        exact ih _ _ _ (Nat.le_succ_of_le hlo) (by omega) (Threads.startsWithin_empty _ _ _)
          (hfound.mono (Nat.le_succ pos))
    · rcases hs : a.step text pos cur.list.toList (Threads.empty a.states.size) with ⟨next, m⟩
      have hstep := a.step_bounds text pos cur.list.toList (Threads.empty a.states.size)
        (fun x hx => hthreads x (Array.mem_toList_iff.1 hx)) (Threads.startsWithin_empty lo pos _)
      rw [hs] at hstep
      obtain ⟨hnext, hm⟩ := hstep
      -- the match found here, or the one found before
      have hfound' : MatchWithin lo pos (m.orElse fun _ => found) := by
        cases m with
        | none => exact hfound
        | some m =>
          intro m' hm'
          cases hm'
          obtain ⟨h1, h2, h3⟩ := hm m rfl
          exact ⟨h1, by omega, by omega⟩
      split
      · exact hfound'.mono hsize
      · exact ih _ _ _ (Nat.le_succ_of_le hlo) (by omega) (hnext.mono (Nat.le_succ pos))
          (hfound'.mono (Nat.le_succ pos))

/-- A match found from `pos` on starts there or later, and ends at or after its start, within the
text. -/
theorem search_bounds {pos : Nat} {m : Nat × Nat} (h : a.search text pos = some m) :
    pos ≤ m.1 ∧ m.1 ≤ m.2 ∧ m.2 ≤ text.size := by
  rw [search] at h
  split at h
  · cases h
  · exact a.run_bounds text _ _ _ _ (Nat.le_refl pos) (by omega)
      (Threads.startsWithin_empty _ _ _) (fun _ hm => by cases hm) m h

/-- The matches found from `pos` on come in order, apart and within the text. -/
theorem findFrom_ordered (fuel : Nat) : ∀ (pos : Nat) (lastEnd : Option Nat), pos ≤ text.size →
    Ordered text.size pos (a.findFrom text fuel pos lastEnd) := by
  induction fuel with
  | zero => exact fun _ _ h => .nil h
  | succ fuel ih =>
    intro pos lastEnd hpos
    rw [findFrom]
    split
    · exact .nil hpos
    · rename_i s e hse
      obtain ⟨hs, hle, he⟩ := a.search_bounds text hse
      split
      · -- an empty match where the last one ended: look one character further
        split
        · exact .nil hpos
        · rename_i s' e' hse'
          obtain ⟨hs', hle', he'⟩ := a.search_bounds text hse'
          exact .cons (by omega) hle' (ih e' (some e') he')
      · exact .cons hs hle (ih e (some e) he)

/-- The matches of a text come in order, apart and within the text. -/
theorem findAll_ordered : Ordered text.size 0 (a.findAll text) :=
  a.findFrom_ordered text _ 0 none (Nat.zero_le _)

end Automaton

end ConceptQuery.Regex
