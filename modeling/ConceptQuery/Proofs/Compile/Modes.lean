import ConceptQuery.Proofs.Compile.Filter

/-!
# Soft disjunctions change the disjunctions only

A compiler combines the alternatives of a concept by a plain disjunction (`CombineMode.andOr`) or
by a soft one with a tie breaker (`CombineMode.disMax`). Nothing else reads the mode: compiling
with soft disjunctions gives the expression compiled with plain ones in which every disjunction
is made soft (`Expression.soften`), as long as the provider itself writes no plain disjunction
(`Compiler.tree_disMax_eq_soften`). The conjunction of the concepts, the conjunction of a
compound's parts, the order of the clauses and every weight stay as they are, and both
compilations fail with the same error.

**Why.** Making the disjunctions soft commutes with the collapsing constructors, whatever the
number of clauses (`Expression.soften_anyOf`, `Expression.soften_allOf`), so it turns the plain
join of a concept into the soft one (`CombineMode.soften_join`). A weighted expansion of the
provider has no plain disjunction, since a weight adds none (`Expression.hasOr_withBoost`), and
making the disjunctions of an expression without any soft changes nothing
(`Expression.soften_eq_self`). The expansions of the writings do not read the mode at all
(`Compiler.expandWritings_mode`).
-/

namespace ConceptQuery

namespace Expression

/-! ### Making disjunctions soft -/

mutual

/-- Every plain disjunction made soft with the tie breaker `tb`; conjunctions, soft
disjunctions and weights kept, each clause in its place. -/
def soften (tb : Float32) : Expression → Expression
  | .leaf f t b => .leaf f t b
  | .and cs => .and (softenAll tb cs)
  | .or cs => .softOr tb (softenAll tb cs)
  | .softOr t cs => .softOr t (softenAll tb cs)
  | .boost w inner => .boost w (soften tb inner)
  | .matchAll => .matchAll
  | .matchNone => .matchNone

/-- `soften` on each clause. -/
def softenAll (tb : Float32) : List Expression → List Expression
  | [] => []
  | e :: rest => soften tb e :: softenAll tb rest

end

mutual

/-- Whether a plain disjunction occurs in the expression. -/
def hasOr : Expression → Bool
  | .or _ => true
  | .and cs | .softOr _ cs => hasOrAll cs
  | .boost _ inner => hasOr inner
  | .leaf .. | .matchAll | .matchNone => false

/-- Whether a plain disjunction occurs in one of the expressions. -/
def hasOrAll : List Expression → Bool
  | [] => false
  | e :: rest => hasOr e || hasOrAll rest

end

/-- Softening clauses maps over them. -/
theorem softenAll_eq_map (tb : Float32) (cs : List Expression) :
    softenAll tb cs = cs.map (soften tb) := by
  induction cs with
  | nil => rfl
  | cons e rest ih => rw [softenAll, ih, List.map_cons]

mutual

/-- Without a plain disjunction there is nothing to make soft. -/
theorem soften_eq_self (tb : Float32) :
    ∀ e : Expression, e.hasOr = false → soften tb e = e
  | .leaf .., _ => rfl
  | .and cs, h => by
    rw [soften, softenAll_eq_self tb cs h]
  | .or _, h => by simp [hasOr] at h
  | .softOr _ cs, h => by
    rw [soften, softenAll_eq_self tb cs h]
  | .boost _ inner, h => by
    rw [soften, soften_eq_self tb inner h]
  | .matchAll, _ | .matchNone, _ => rfl

/-- Clauses without a disjunction are left as they are. -/
theorem softenAll_eq_self (tb : Float32) :
    ∀ cs : List Expression, hasOrAll cs = false → softenAll tb cs = cs
  | [], _ => rfl
  | e :: rest, h => by
    rw [hasOrAll, Bool.or_eq_false_iff] at h
    rw [softenAll, soften_eq_self tb e h.1, softenAll_eq_self tb rest h.2]

end

/-- A weight adds no disjunction: it scales a leaf or a weight, or wraps the expression. -/
@[simp] theorem hasOr_withBoost (e : Expression) (w : Float32) :
    (e.withBoost w).hasOr = e.hasOr := by
  unfold withBoost
  split
  · rfl
  · cases e <;> rfl

/-- Softening a conjunction softens its clauses. -/
@[simp] theorem soften_allOf (tb : Float32) (es : List Expression) :
    soften tb (allOf es) = allOf (es.map (soften tb)) := by
  match es with
  | [] => rfl
  | [e] => rfl
  | _ :: _ :: _ => simp only [allOf, soften, softenAll_eq_map, List.map_cons]

/-- A plain disjunction made soft is the soft disjunction of the softened clauses, for any
number of clauses: none gives match none either way, and one clause stands for itself. -/
@[simp] theorem soften_anyOf (tb : Float32) (es : List Expression) :
    soften tb (anyOf es) = softAnyOf tb (es.map (soften tb)) := by
  match es with
  | [] => rfl
  | [e] => rfl
  | _ :: _ :: _ => simp only [anyOf, softAnyOf, soften, softenAll_eq_map, List.map_cons]

end Expression

open Expression

/-- The plain join of a concept, made soft, is the soft join of the softened expressions. -/
theorem CombineMode.soften_join (tb : Float32) (direct parts : List Expression) :
    soften tb (CombineMode.andOr.join direct parts) =
      (CombineMode.disMax tb).join (direct.map (soften tb)) (parts.map (soften tb)) := by
  cases parts <;> simp only [join, combine, soften_anyOf, soften_allOf, List.map_cons,
    List.map_nil]

/-- A computation whose results are those of `x` under `g`, continued by steps that agree under
`h` with the continuation of `x`, gives the results of the whole under `h`, or the same error. -/
theorem bind_eq_map_bind {ε α β γ δ : Type} {x' : Except ε γ} {x : Except ε α}
    {f' : γ → Except ε δ} {f : α → Except ε β} {g : α → γ} {h : β → δ} (hx : x' = g <$> x)
    (hf : ∀ a, f' (g a) = h <$> f a) : x' >>= f' = h <$> (x >>= f) := by
  subst hx
  cases x with
  | error e => rfl
  | ok a => exact hf a

namespace Compiler

open ConceptQuery.Concept

/-! ### Compiling with either mode -/

/-- The expansions of the writings read the fields and the provider, never the mode. -/
theorem expandWritings_mode (fields : FieldWeights) (p : Provider) (m m' : CombineMode)
    (ws : List String) :
    (Compiler.mk fields p m).expandWritings ws = (Compiler.mk fields p m').expandWritings ws := by
  induction ws with
  | nil => rfl
  | cons w rest ih => rw [expandWritings_cons, expandWritings_cons, ih]; rfl

section Soften

variable {fields : FieldWeights} {p : Provider} (tb : Float32)
  (hp : ∀ f w e, p.expand f w = .ok e → e.hasOr = false)
include hp

/-- The expansions of a writing have no plain disjunction to make soft. -/
theorem softenAll_mapM_expandIn (m : CombineMode) (w : String) (fs : List (String × Float32)) :
    List.map (soften tb) <$> fs.mapM ((Compiler.mk fields p m).expandIn w) =
      fs.mapM ((Compiler.mk fields p m).expandIn w) := by
  rw [map_mapM]
  congr
  funext fw
  obtain ⟨f, weight⟩ := fw
  cases he : p.expand f w with
  | error e => simp [expandIn, he]
  | ok e =>
    have hno : (e.withBoost weight).hasOr = false := by rw [hasOr_withBoost]; exact hp f w e he
    simp [expandIn, he, soften_eq_self tb _ hno]

/-- The expressions of writings hold no disjunction to soften. -/
theorem softenAll_expandWritings (m : CombineMode) (ws : List String) :
    List.map (soften tb) <$> (Compiler.mk fields p m).expandWritings ws =
      (Compiler.mk fields p m).expandWritings ws := by
  induction ws with
  | nil => rfl
  | cons w rest ih =>
    have hhere : List.map (soften tb) <$> fields.entries.mapM ((Compiler.mk fields p m).expandIn w) =
        fields.entries.mapM ((Compiler.mk fields p m).expandIn w) :=
      softenAll_mapM_expandIn tb hp m w _
    rw [expandWritings_cons]
    -- Both the expansions in the fields and those of the other writings are unchanged.
    cases hx : fields.entries.mapM ((Compiler.mk fields p m).expandIn w) with
    | error e => rfl
    | ok here =>
      rw [hx, Except.map_ok, Except.ok.injEq] at hhere
      cases hy : (Compiler.mk fields p m).expandWritings rest with
      | error e => rfl
      | ok more =>
        rw [hy, Except.map_ok, Except.ok.injEq] at ih
        show Except.ok (List.map (soften tb) (here ++ more)) = Except.ok (here ++ more)
        rw [List.map_append, hhere, ih]

/-- Compiling concepts with soft disjunctions gives the plainly compiled expressions made soft.
The induction follows the compiler, children first. -/
theorem concepts_disMax (cs : List Concept) :
    (Compiler.mk fields p (.disMax tb)).concepts cs =
      List.map (soften tb) <$> (Compiler.mk fields p .andOr).concepts cs := by
  induction cs using listInduction with
  | nil => rfl
  | cons c rest ihc ihr =>
    have hc : (Compiler.mk fields p (.disMax tb)).concept c =
        soften tb <$> (Compiler.mk fields p .andOr).concept c := by
      have hes : (Compiler.mk fields p (.disMax tb)).expandWritings c.writings =
          List.map (soften tb) <$> (Compiler.mk fields p .andOr).expandWritings c.writings := by
        rw [expandWritings_mode fields p (.disMax tb) .andOr, softenAll_expandWritings tb hp]
      rw [concept_eq_bind, concept_eq_bind]
      exact bind_eq_map_bind ihc fun parts => bind_eq_map_bind hes fun es =>
        congrArg pure (CombineMode.soften_join tb es parts).symm
    rw [concepts_cons, concepts_cons]
    exact bind_eq_map_bind hc fun e => bind_eq_map_bind ihr fun more => rfl

/-- A tree compiled with soft disjunctions of tie breaker `tb` is the tree compiled with plain
disjunctions, every disjunction made soft, for any fields and weights and any provider that
writes no plain disjunction itself: the same error, or the same conjunctions, clauses in the same
order and the same weights. -/
theorem tree_disMax_eq_soften (t : SpanTree) :
    (Compiler.mk fields p (.disMax tb)).tree t =
      soften tb <$> (Compiler.mk fields p .andOr).tree t := by
  rw [tree_eq_map, tree_eq_map, concepts_disMax tb hp, ← comp_map, ← comp_map]
  congr 1
  funext es
  exact (soften_allOf tb es).symm

end Soften

/-- The term provider writes single leaves, so with two weighted fields and a compound of two
parts, soft disjunctions of tie breaker `0.3` make the plain ones soft. -/
theorem tree_disMax_eq_soften_compound :
    let fields : FieldWeights := ⟨[("title", 2), ("body", 1)], by decide⟩
    let t := SpanTree.build [⟨"wi-fi", 0, 5, 0⟩, ⟨"wi", 0, 2, 0⟩, ⟨"fi", 3, 5, 0⟩,
      ⟨"wifi", 0, 5, 0⟩]
    (∀ f w e, Provider.term.expand f w = .ok e → e.hasOr = false) ∧
      (Compiler.mk fields .term (.disMax 0.3)).tree t =
        soften 0.3 <$> (Compiler.mk fields .term .andOr).tree t := by
  intro fields t
  have hp : ∀ f w e, Provider.term.expand f w = .ok e → e.hasOr = false := by
    intro f w e he
    cases he
    rfl
  exact ⟨hp, tree_disMax_eq_soften 0.3 hp t⟩

end Compiler

end ConceptQuery
