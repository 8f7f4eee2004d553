import ConceptQuery.Proofs.Compile.Matching

/-!
# Which provider error a compilation reports

Compiling a tree calls the provider once for each writing of each concept in each field, and
stops at the first call that fails. The calls come in a fixed order (`Compiler.calls`): the
concepts children first (`Concept.postorderAll`), and for each concept its writings, term first,
each in every field in the order the fields were given. Compiling fails with an error exactly when
some call fails, and the error is the one of the first call that does; otherwise it succeeds
(`tree_eq_error_iff_first_call`).

**The proof** sets the compiled expressions aside and keeps only success or failure
(`outcome`). Every step of the compiler is a sequence of computations whose later members never
read the results of the earlier ones (`outcome_bind_bind_pure`), so the outcome of a compilation
is the outcome of running the provider over the calls in order (`Compiler.outcome_tree`), by
induction on the tree, children first as the compiler goes. A run over a list fails at its first
failing step (`forM_eq_error_iff`).
-/

namespace ConceptQuery

/-! ### Success or failure of a run -/

/-- Success or the error of a computation, its result set aside. -/
def outcome {ε α : Type} (x : Except ε α) : Except ε Unit := (fun _ => ()) <$> x

section Outcome

variable {ε α β γ : Type}

/-- A computation succeeds when it gives some value. -/
theorem outcome_eq_ok_iff {x : Except ε α} : outcome x = .ok () ↔ ∃ a, x = .ok a := by
  cases x <;> simp [outcome]

/-- A computation fails with the error it fails with. -/
theorem outcome_eq_error_iff {x : Except ε α} {e : ε} :
    outcome x = .error e ↔ x = .error e := by
  cases x <;> simp [outcome]

/-- A result mapped keeps its outcome. -/
@[simp] theorem outcome_map (g : α → β) (x : Except ε α) : outcome (g <$> x) = outcome x := by
  cases x <;> rfl

/-- Two computations of which the second does not read the result of the first, their results
then combined: the first fails, or the second does, or both succeed. -/
theorem outcome_bind_bind_pure (x : Except ε α) (y : Except ε β) (g : α → β → γ) :
    outcome (x >>= fun a => y >>= fun b => pure (g a b)) = outcome x >>= fun _ => outcome y := by
  cases x with
  | error e => rfl
  | ok a => cases y <;> rfl

/-- Running a step over a list keeps its results; set aside, they leave a run of the steps'
outcomes. -/
theorem outcome_mapM (f : α → Except ε β) (xs : List α) :
    outcome (xs.mapM f) = forM xs fun x => outcome (f x) := by
  induction xs with
  | nil => rfl
  | cons x xs ih =>
    rw [List.mapM_cons, List.forM_cons, ← ih]
    exact outcome_bind_bind_pure (f x) (xs.mapM f) List.cons

/-- A run of steps succeeds exactly when every step does. -/
theorem forM_eq_ok_iff (g : α → Except ε Unit) (l : List α) :
    forM l g = .ok () ↔ ∀ y ∈ l, g y = .ok () := by
  induction l with
  | nil => simp [List.forM_nil, pure, Except.pure]
  | cons a rest ih =>
    rw [List.forM_cons, List.forall_mem_cons, ← ih]
    cases g a with
    | error e => simp [bind, Except.bind]
    | ok u => simp [bind, Except.bind]

/-- A run of steps fails with `e` exactly when some step fails with `e` and every step before it
succeeds. -/
theorem forM_eq_error_iff (g : α → Except ε Unit) (e : ε) (l : List α) :
    forM l g = .error e ↔
      ∃ pre x post, l = pre ++ x :: post ∧ (∀ y ∈ pre, g y = .ok ()) ∧
        g x = .error e := by
  induction l with
  | nil => simp [List.forM_nil, pure, Except.pure]
  | cons a rest ih =>
    rw [List.forM_cons]
    cases ha : g a with
    | error e' =>
      -- The run stops at `a`: the first failing step is the head.
      show Except.error e' = .error e ↔ _
      constructor
      · rintro ⟨⟩
        exact ⟨[], a, rest, rfl, by simp, ha⟩
      · rintro ⟨pre, x, post, hl, hpre, hx⟩
        cases pre with
        | nil =>
          obtain ⟨rfl, -⟩ := List.cons.inj hl
          rw [← hx, ha]
        | cons y pre =>
          obtain ⟨rfl, -⟩ := List.cons.inj hl
          rw [hpre a List.mem_cons_self] at ha
          cases ha
    | ok u =>
      -- The head succeeds: the first failing step is one of the rest.
      show forM rest g = .error e ↔ _
      rw [ih]
      constructor
      · rintro ⟨pre, x, post, rfl, hpre, hx⟩
        refine ⟨a :: pre, x, post, rfl, ?_, hx⟩
        rw [List.forall_mem_cons]
        exact ⟨ha, hpre⟩
      · rintro ⟨pre, x, post, hl, hpre, hx⟩
        cases pre with
        | nil =>
          obtain ⟨rfl, -⟩ := List.cons.inj hl
          rw [ha] at hx
          cases hx
        | cons y pre =>
          obtain ⟨rfl, rfl⟩ := List.cons.inj hl
          exact ⟨pre, x, post, rfl, fun z hz => hpre z (List.mem_cons_of_mem _ hz), hx⟩

end Outcome

/-! ### The calls of a compilation -/

namespace Concept

mutual

/-- A concept and every concept below it, children before their parent. -/
def postorder : Concept → List Concept
  | ⟨term, alts, children⟩ => postorderAll children ++ [⟨term, alts, children⟩]

/-- Every concept in or below a list of siblings, each after the concepts below it. -/
def postorderAll : List Concept → List Concept
  | [] => []
  | c :: rest => postorder c ++ postorderAll rest

end

/-- A concept comes after everything below it. -/
@[simp] theorem postorder_eq (c : Concept) : c.postorder = postorderAll c.children ++ [c] := by
  cases c; rfl

/-- No concepts have an empty postorder. -/
@[simp] theorem postorderAll_nil : postorderAll [] = [] := rfl

/-- The postorder of concepts is that of the first, then that of the rest. -/
@[simp] theorem postorderAll_cons (c : Concept) (rest : List Concept) :
    postorderAll (c :: rest) = c.postorder ++ postorderAll rest := rfl

end Concept

namespace Compiler

open ConceptQuery.Concept

/-- The provider calls for writings, as (field, writing): each writing in turn, in each field. -/
def writingCalls (names ws : List String) : List (String × String) :=
  ws.flatMap fun w => names.map fun f => (f, w)

/-- The provider calls of compiling a tree, in the order they are made: the concepts children
first, each with the calls of its writings. -/
def calls (k : Compiler) (t : SpanTree) : List (String × String) :=
  (postorderAll t.concepts).flatMap fun n => writingCalls k.fields.names n.writings

/-- The calls of writings are the first writing in every field, then the calls of the rest. -/
theorem writingCalls_cons (names : List String) (w : String) (ws : List String) :
    writingCalls names (w :: ws) = names.map (fun f => (f, w)) ++ writingCalls names ws :=
  List.flatMap_cons

variable (k : Compiler)

/-- The outcome of one provider call. -/
def callOutcome (c : String × String) : Except Error Unit := outcome (k.provider.expand c.1 c.2)

/-- Expanding a writing in a field fails exactly as the provider's call does. -/
theorem outcome_expandIn (w : String) (fw : String × Float32) :
    outcome (k.expandIn w fw) = k.callOutcome (fw.1, w) := by
  obtain ⟨f, weight⟩ := fw
  simp only [callOutcome, expandIn]
  cases k.provider.expand f w <;> rfl

/-- Expanding writings fails or succeeds as the provider does over their calls. -/
theorem outcome_expandWritings (ws : List String) :
    outcome (k.expandWritings ws) = forM (writingCalls k.fields.names ws) k.callOutcome := by
  induction ws with
  | nil => rfl
  | cons w rest ih =>
    have hhere : outcome (k.fields.entries.mapM (k.expandIn w)) =
        forM (k.fields.names.map fun f => (f, w)) k.callOutcome := by
      rw [outcome_mapM, FieldWeights.names, List.map_map, List.forM_map]
      simp only [outcome_expandIn, Function.comp_def]
    rw [expandWritings_cons, outcome_bind_bind_pure, hhere, ih, writingCalls_cons,
      List.forM_append]

/-- Compiling concepts fails or succeeds as the provider does over the calls of the concepts and
of everything below them, children first. -/
theorem outcome_concepts (cs : List Concept) :
    outcome (k.concepts cs) =
      forM ((postorderAll cs).flatMap fun n => writingCalls k.fields.names n.writings)
        k.callOutcome := by
  -- Induction on the tree, children before their parent as the compiler goes.
  induction cs using listInduction with
  | nil => rfl
  | cons c rest ihc ihr =>
    have hc : outcome (k.concept c) =
        outcome (k.concepts c.children) >>= fun _ => outcome (k.expandWritings c.writings) := by
      rw [concept_eq_bind, outcome_bind_bind_pure]
    rw [concepts_cons, outcome_bind_bind_pure, hc, ihc, ihr, outcome_expandWritings,
      postorderAll_cons, postorder_eq, List.flatMap_append, List.flatMap_append,
      List.forM_append, List.forM_append, List.flatMap_singleton, bind_assoc]

/-- Compiling a tree fails or succeeds as the provider does over the calls, in order. -/
theorem outcome_tree (t : SpanTree) : outcome (k.tree t) = forM (k.calls t) k.callOutcome := by
  rw [tree_eq_map, outcome_map, outcome_concepts, calls]

/-- Compiling a tree fails exactly when some provider call fails, with the error of the first
call that fails, the calls taken children first, each writing in every field; otherwise it
succeeds. -/
theorem tree_eq_error_iff_first_call (t : SpanTree) :
    (∀ e, k.tree t = .error e ↔
      ∃ pre c post, k.calls t = pre ++ c :: post ∧
        (∀ c' ∈ pre, ∃ r, k.provider.expand c'.1 c'.2 = .ok r) ∧
        k.provider.expand c.1 c.2 = .error e) ∧
    ((∃ r, k.tree t = .ok r) ↔
      ∀ c ∈ k.calls t, ∃ r, k.provider.expand c.1 c.2 = .ok r) := by
  constructor
  · intro e
    rw [← outcome_eq_error_iff, outcome_tree, forM_eq_error_iff]
    simp only [callOutcome, outcome_eq_ok_iff, outcome_eq_error_iff]
  · rw [← outcome_eq_ok_iff, outcome_tree, forM_eq_ok_iff]
    simp only [callOutcome, outcome_eq_ok_iff]

end Compiler

end ConceptQuery
