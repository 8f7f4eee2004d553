import ConceptQuery.Proofs.Compile.Matching
import ConceptQuery.Proofs.Query.AcrossFields

/-!
# The shape of compiled expressions

The collapsing constructors (`Expression.allOf`, `Expression.anyOf`, `Expression.softAnyOf`)
never build a conjunction or a disjunction of fewer than two clauses, and compiled expressions
keep that shape all the way down: when the provider's expressions have no such combination, a
compiled tree has none either (`Expression.Collapsed`), and the constants in it come from known
places only. Match all stands for a tree without concepts, or was given by the provider; match
none stands for a compilation without fields, or was given by the provider
(`Compiler.tree_shaped`). A query across fields has no degenerate combination and no match none
at all (`FieldsQuery.toExpression_collapsed`); both facts together are
`collapsed_and_constants`.

**Occurrences.** `Expression.Occurs x e` says that `x` is `e` or lies inside it. Each
collapsing constructor is a `Collapses` function: one clause stands for itself, and any other
list gives an expression that is not degenerate and whose clauses are the list. What lies inside
such a combination is the combination or lies inside a clause (`Collapses.occurs_iff`), so the
combination is collapsed exactly when its clauses are (`Collapses.collapsed_iff`), and a constant
inside it is the combination of no clauses or lies inside a clause
(`Collapses.occurs_constant`). A weight wraps or rescales and adds no constant
(`Expression.occurs_withBoost`).

**The compiler** is followed step by step: the expansions of writings (`expandWritings_mem`),
then a concept from its children and its expansions (`Compiler.concept_shaped`), by induction on
the tree as the compiler goes (`Compiler.concepts_shaped`). The invariant (`Compiler.Shaped`)
names, for the concepts compiled so far, where a constant may come from.
-/

namespace ConceptQuery

/-! ### Running steps over a list -/

section Run

variable {ε α β : Type}

/-- A sequenced computation succeeds exactly when each step succeeds in turn. -/
theorem bind_eq_ok {x : Except ε α} {f : α → Except ε β} {b : β} :
    (x >>= f) = .ok b ↔ ∃ a, x = .ok a ∧ f a = .ok b := by
  cases x <;> simp [bind, Except.bind]

/-- A step run over a list succeeds with one result for each element, each of them the step's
result on some element. -/
theorem mapM_eq_ok_imp {f : α → Except ε β} {xs : List α} {ys : List β}
    (h : xs.mapM f = .ok ys) :
    ys.length = xs.length ∧ ∀ y ∈ ys, ∃ x ∈ xs, f x = .ok y := by
  induction xs generalizing ys with
  | nil =>
    cases h
    simp
  | cons x xs ih =>
    rw [List.mapM_cons, bind_eq_ok] at h
    obtain ⟨y, hy, h⟩ := h
    rw [bind_eq_ok] at h
    obtain ⟨ys', hys', h⟩ := h
    cases h
    obtain ⟨hlen, hmem⟩ := ih hys'
    refine ⟨by simp [hlen], ?_⟩
    rw [List.forall_mem_cons]
    exact ⟨⟨x, List.mem_cons_self, hy⟩,
      fun z hz => (hmem z hz).imp fun x' hx' => ⟨List.mem_cons_of_mem _ hx'.1, hx'.2⟩⟩

end Run

namespace Expression

/-! ### Occurrences and degenerate combinations -/

/-- `Occurs x e`: `x` is `e` or lies inside it, at any depth. -/
inductive Occurs (x : Expression) : Expression → Prop
  /-- An expression occurs in itself. -/
  | refl : Occurs x x
  /-- What occurs in a clause occurs in the expression. -/
  | clause {e c : Expression} : c ∈ e.clauses → Occurs x c → Occurs x e

/-- A conjunction or a disjunction, soft or plain, of fewer than two clauses. -/
def degenerate : Expression → Bool
  | .and cs | .or cs | .softOr _ cs => decide (cs.length < 2)
  | _ => false

/-- No conjunction or disjunction, soft or plain, of fewer than two clauses lies in the
expression. -/
def Collapsed (e : Expression) : Prop := ∀ x, Occurs x e → x.degenerate = false

/-- Whether the expression is match all or match none. -/
def isConstant : Expression → Bool
  | .matchAll | .matchNone => true
  | _ => false

/-- A sub-expression is the expression itself or occurs in one of its clauses. -/
theorem occurs_iff {x e : Expression} :
    Occurs x e ↔ x = e ∨ ∃ c ∈ e.clauses, Occurs x c := by
  constructor
  · rintro (_ | ⟨hc, h⟩)
    · exact .inl rfl
    · exact .inr ⟨_, hc, h⟩
  · rintro (rfl | ⟨c, hc, h⟩)
    · exact .refl
    · exact .clause hc h

/-- An expression is collapsed when it is not degenerate itself and its clauses are collapsed. -/
theorem collapsed_iff {e : Expression} :
    Collapsed e ↔ e.degenerate = false ∧ ∀ c ∈ e.clauses, Collapsed c := by
  constructor
  · intro h
    exact ⟨h e .refl, fun c hc x hx => h x (.clause hc hx)⟩
  · rintro ⟨he, hcs⟩ x hx
    rcases occurs_iff.1 hx with rfl | ⟨c, hc, hxc⟩
    · exact he
    · exact hcs c hc x hxc

/-- A leaf is collapsed. -/
@[simp] theorem collapsed_leaf (f t : String) (b : Float32) : Collapsed (.leaf f t b) :=
  collapsed_iff.2 ⟨rfl, fun _ hc => (List.not_mem_nil hc).elim⟩

/-- Match none is collapsed. -/
@[simp] theorem collapsed_matchNone : Collapsed .matchNone :=
  collapsed_iff.2 ⟨rfl, fun _ hc => (List.not_mem_nil hc).elim⟩

/-- A constant has no clauses. -/
theorem clauses_of_isConstant {x : Expression} (hx : x.isConstant = true) : x.clauses = [] := by
  cases x <;> first | rfl | cases hx

/-- A constant lies in no leaf. -/
theorem not_occurs_leaf {x : Expression} (hx : x.isConstant = true) (f t : String) (b : Float32) :
    ¬ Occurs x (.leaf f t b) := by
  rw [occurs_iff]
  rintro (rfl | ⟨c, hc, -⟩)
  · cases hx
  · cases hc

/-! ### The collapsing constructors -/

/-- What the collapsing constructors share: one clause stands for itself, and any other list of
clauses gives an expression that is not degenerate and whose clauses are the list. -/
def Collapses (g : List Expression → Expression) : Prop :=
  ∀ es, (∃ e, es = [e] ∧ g es = e) ∨ ((g es).degenerate = false ∧ (g es).clauses = es)

/-- A conjunction of one clause is the clause, and otherwise not degenerate. -/
theorem collapses_allOf : Collapses allOf
  | [] => .inr ⟨rfl, rfl⟩
  | [e] => .inl ⟨e, rfl, rfl⟩
  | _ :: _ :: _ => .inr ⟨by simp [allOf, degenerate], rfl⟩

/-- A disjunction of one clause is the clause, and otherwise not degenerate. -/
theorem collapses_anyOf : Collapses anyOf
  | [] => .inr ⟨rfl, rfl⟩
  | [e] => .inl ⟨e, rfl, rfl⟩
  | _ :: _ :: _ => .inr ⟨by simp [anyOf, degenerate], rfl⟩

/-- A soft disjunction of one clause is the clause, and otherwise not degenerate. -/
theorem collapses_softAnyOf (tb : Float32) : Collapses (softAnyOf tb)
  | [] => .inr ⟨rfl, rfl⟩
  | [e] => .inl ⟨e, rfl, rfl⟩
  | _ :: _ :: _ => .inr ⟨by simp [softAnyOf, degenerate], rfl⟩

section Collapses

variable {g : List Expression → Expression} (hg : Collapses g)
include hg

/-- What lies in a collapsed combination is the combination or lies in a clause. -/
theorem Collapses.occurs_iff (es : List Expression) {x : Expression} :
    Occurs x (g es) ↔ x = g es ∨ ∃ e ∈ es, Occurs x e := by
  rcases hg es with ⟨e, rfl, he⟩ | ⟨-, hcl⟩
  · rw [he]
    simp only [List.mem_singleton, exists_eq_left]
    exact ⟨Or.inr, fun h => h.elim (fun hx => hx ▸ .refl) id⟩
  · rw [Expression.occurs_iff, hcl]

/-- A collapsed combination is collapsed exactly when its clauses are. -/
theorem Collapses.collapsed_iff (es : List Expression) :
    Collapsed (g es) ↔ ∀ e ∈ es, Collapsed e := by
  rcases hg es with ⟨e, rfl, he⟩ | ⟨hd, hcl⟩
  · simp [he]
  · rw [Expression.collapsed_iff, hd, hcl]
    simp

/-- A constant in a collapsed combination is the combination of no clauses, or lies in a
clause. -/
theorem Collapses.occurs_constant (es : List Expression) {x : Expression}
    (hx : x.isConstant = true) (h : Occurs x (g es)) :
    (es = [] ∧ x = g []) ∨ ∃ e ∈ es, Occurs x e := by
  rcases (hg.occurs_iff es).1 h with rfl | hin
  · -- The combination is the constant itself, so it is its one clause or has no clauses.
    rcases hg es with ⟨e, rfl, he⟩ | ⟨-, hcl⟩
    · refine .inr ⟨e, List.mem_singleton_self e, ?_⟩
      rw [he]
      exact .refl
    · obtain rfl : es = [] := hcl ▸ clauses_of_isConstant hx
      exact .inl ⟨rfl, rfl⟩
  · exact .inr hin

end Collapses

/-! ### Weights -/

/-- A weight neither makes nor undoes a degenerate combination. -/
@[simp] theorem collapsed_withBoost (e : Expression) (w : Float32) :
    Collapsed (e.withBoost w) ↔ Collapsed e := by
  unfold withBoost
  split
  · rfl
  · cases e <;> simp [collapsed_iff (e := .boost _ _), degenerate, clauses]

/-- A weight adds no constant and removes none. -/
theorem occurs_withBoost {x : Expression} (hx : x.isConstant = true) (e : Expression)
    (w : Float32) : Occurs x (e.withBoost w) ↔ Occurs x e := by
  unfold withBoost
  split
  · rfl
  · -- A weight rescales a leaf or a weight, or wraps anything else.
    have hwrap : ∀ (v : Float32) (inner : Expression),
        Occurs x (.boost v inner) ↔ Occurs x inner := fun v inner => by
        rw [occurs_iff]
        simp only [clauses, List.mem_singleton, exists_eq_left]
        exact ⟨fun h => h.resolve_left fun h' => (by subst h'; cases hx), Or.inr⟩
    cases e with
    | leaf f t b => exact iff_of_false (not_occurs_leaf hx f t _) (not_occurs_leaf hx f t b)
    | boost b inner => rw [hwrap, hwrap]
    | _ => exact hwrap _ _

end Expression

/-- Combining in either mode collapses single clauses. -/
theorem CombineMode.collapses_combine (m : CombineMode) : Expression.Collapses m.combine := by
  cases m with
  | andOr => exact Expression.collapses_anyOf
  | disMax tb => exact Expression.collapses_softAnyOf tb

/-- The combination of no alternatives matches nothing. -/
@[simp] theorem CombineMode.combine_nil (m : CombineMode) : m.combine [] = .matchNone := by
  cases m <;> rfl

namespace Compiler

open ConceptQuery.Concept Expression

variable (k : Compiler)

/-! ### Where constants come from -/

/-- The provider gives, for some writing of a concept among `cs` or below them, in some field,
an expression in which `x` lies. -/
def ProviderGives (cs : List Concept) (x : Expression) : Prop :=
  ∃ n ∈ nodesAll cs, ∃ w ∈ n.writings, ∃ f ∈ k.fields.names, ∃ r,
    k.provider.expand f w = .ok r ∧ Occurs x r

/-- What the provider gives for some concepts it gives for any concepts holding their nodes. -/
theorem ProviderGives.mono {cs cs' : List Concept} {x : Expression}
    (hsub : ∀ n ∈ nodesAll cs, n ∈ nodesAll cs') (h : k.ProviderGives cs x) :
    k.ProviderGives cs' x := by
  obtain ⟨n, hn, rest⟩ := h
  exact ⟨n, hsub n hn, rest⟩

/-- What every expression compiled from concepts `cs` satisfies: it is collapsed, and a constant
in it is match none for want of fields, or comes from the provider on a writing of `cs`. -/
def Shaped (cs : List Concept) (e : Expression) : Prop :=
  Collapsed e ∧ ∀ x, x.isConstant = true → Occurs x e →
    (x = .matchNone ∧ k.fields.entries = []) ∨ k.ProviderGives cs x

/-- An expression shaped over some concepts is shaped over any concepts holding their nodes. -/
theorem Shaped.mono {cs cs' : List Concept} {e : Expression}
    (hsub : ∀ n ∈ nodesAll cs, n ∈ nodesAll cs') (h : k.Shaped cs e) : k.Shaped cs' e :=
  ⟨h.1, fun x hx hocc => (h.2 x hx hocc).imp_right (ProviderGives.mono k hsub)⟩

/-- A collapsed combination of some shaped expressions is shaped. -/
theorem Shaped.collapses {g : List Expression → Expression} (hg : Collapses g)
    {cs : List Concept} {es : List Expression} (hne : es ≠ [])
    (hes : ∀ e ∈ es, k.Shaped cs e) : k.Shaped cs (g es) := by
  refine ⟨(hg.collapsed_iff es).2 fun e he => (hes e he).1, fun x hx hocc => ?_⟩
  rcases hg.occurs_constant es hx hocc with ⟨rfl, -⟩ | ⟨e, he, hxe⟩
  · exact absurd rfl hne
  · exact (hes e he).2 x hx hxe

/-! ### The compiler, step by step -/

/-- The provider's expression of a writing in a field, with the field's weight. -/
theorem expandIn_eq_ok_iff {w : String} {fw : String × Float32} {e : Expression} :
    k.expandIn w fw = .ok e ↔
      ∃ r, k.provider.expand fw.1 w = .ok r ∧ e = r.withBoost fw.2 := by
  obtain ⟨f, weight⟩ := fw
  simp only [expandIn]
  cases k.provider.expand f w with
  | error e' => simp [bind, Except.bind]
  | ok r => simp [bind, Except.bind, pure, Except.pure, eq_comm]

/-- Each expansion of writings is the provider's expression of one of the writings in one of the
fields, with its weight; there is none only for no writings or no fields. -/
theorem expandWritings_mem {ws : List String} {es : List Expression}
    (h : k.expandWritings ws = .ok es) :
    (∀ e ∈ es, ∃ w ∈ ws, ∃ fw ∈ k.fields.entries, ∃ r,
      k.provider.expand fw.1 w = .ok r ∧ e = r.withBoost fw.2) ∧
    (es = [] → ws = [] ∨ k.fields.entries = []) := by
  induction ws generalizing es with
  | nil =>
    cases h
    simp
  | cons w rest ih =>
    rw [expandWritings_cons, bind_eq_ok] at h
    obtain ⟨here, hhere, h⟩ := h
    rw [bind_eq_ok] at h
    obtain ⟨more, hmore, h⟩ := h
    cases h
    obtain ⟨hlen, hmem⟩ := mapM_eq_ok_imp hhere
    obtain ⟨hmem', -⟩ := ih hmore
    refine ⟨fun e he => ?_, fun hnil => .inr ?_⟩
    · rcases List.mem_append.1 he with he | he
      · obtain ⟨fw, hfw, hfe⟩ := hmem e he
        obtain ⟨r, hr, rfl⟩ := (k.expandIn_eq_ok_iff).1 hfe
        exact ⟨w, List.mem_cons_self, fw, hfw, r, hr, rfl⟩
      · obtain ⟨w', hw', rest'⟩ := hmem' e he
        exact ⟨w', List.mem_cons_of_mem _ hw', rest'⟩
    · -- No expansion of the first writing means no field.
      have hhere0 : here = [] := (List.append_eq_nil_iff.1 hnil).1
      rw [hhere0, List.length_nil] at hlen
      exact List.eq_nil_of_length_eq_zero hlen.symm

/-- A concept compiles from its children and the expansions of its writings, joined by the
mode. -/
theorem concept_eq_ok_iff {c : Concept} {e : Expression} :
    k.concept c = .ok e ↔ ∃ parts ws, k.concepts c.children = .ok parts ∧
      k.expandWritings c.writings = .ok ws ∧ e = k.mode.join ws parts := by
  rw [concept_eq_bind, bind_eq_ok]
  simp only [bind_eq_ok, pure, Except.pure, Except.ok.injEq]
  constructor
  · rintro ⟨parts, hparts, ws, hws, rfl⟩
    exact ⟨parts, ws, hparts, hws, rfl⟩
  · rintro ⟨parts, ws, hparts, hws, rfl⟩
    exact ⟨parts, hparts, ws, hws, rfl⟩

/-- The expressions of concepts are those of the first concept and of the rest. -/
theorem concepts_cons_eq_ok_iff {c : Concept} {rest : List Concept} {es : List Expression} :
    k.concepts (c :: rest) = .ok es ↔
      ∃ e more, k.concept c = .ok e ∧ k.concepts rest = .ok more ∧ es = e :: more := by
  rw [concepts_cons, bind_eq_ok]
  simp only [bind_eq_ok, pure, Except.pure, Except.ok.injEq]
  constructor
  · rintro ⟨e, he, more, hmore, rfl⟩
    exact ⟨e, more, he, hmore, rfl⟩
  · rintro ⟨e, more, he, hmore, rfl⟩
    exact ⟨e, he, more, hmore, rfl⟩

section Provider

variable {k} (hp : ∀ f w r, k.provider.expand f w = .ok r → r.Collapsed)
include hp

/-- The direct alternatives of a concept, combined by the mode, are shaped: match none for want
of fields, or the combination of the provider's expressions of its writings. -/
theorem direct_shaped {c : Concept} {ws : List Expression}
    (hws : k.expandWritings c.writings = .ok ws) : k.Shaped [c] (k.mode.combine ws) := by
  obtain ⟨hmem, hnil⟩ := k.expandWritings_mem hws
  by_cases hne : ws = []
  · -- Without fields the alternatives are none, and their combination matches nothing.
    have hfields : k.fields.entries = [] :=
      (hnil hne).resolve_left (by simp [Concept.writings])
    subst hne
    rw [CombineMode.combine_nil]
    refine ⟨collapsed_matchNone, fun x _ hocc => .inl ⟨?_, hfields⟩⟩
    rcases occurs_iff.1 hocc with rfl | ⟨c, hc, -⟩
    · rfl
    · cases hc
  · refine Shaped.collapses k (k.mode.collapses_combine) hne fun e he => ?_
    obtain ⟨w, hw, fw, hfw, r, hr, rfl⟩ := hmem e he
    refine ⟨(collapsed_withBoost r fw.2).2 (hp _ _ r hr), fun x hx hocc => .inr ?_⟩
    exact ⟨c, by simp, w, hw, fw.1, List.mem_map_of_mem hfw, r, hr,
      (occurs_withBoost hx r fw.2).1 hocc⟩

/-- A concept whose children compile to shaped expressions compiles to a shaped expression. -/
theorem concept_shaped {c : Concept} {parts ws : List Expression}
    (hparts : ∀ p ∈ parts, k.Shaped c.children p)
    (hws : k.expandWritings c.writings = .ok ws) : k.Shaped [c] (k.mode.join ws parts) := by
  have hdirect := direct_shaped hp hws
  cases parts with
  | nil => exact hdirect
  | cons p ps =>
    have hsub : ∀ n ∈ nodesAll c.children, n ∈ nodesAll [c] := fun n hn => by
      rw [nodesAll_singleton]
      exact mem_nodes_of_mem_nodesAll_children hn
    have hdecomp : k.Shaped [c] (allOf (p :: ps)) :=
      Shaped.collapses k collapses_allOf (List.cons_ne_nil p ps)
        fun e he => Shaped.mono k hsub (hparts e he)
    refine Shaped.collapses k (k.mode.collapses_combine) (List.cons_ne_nil _ _) fun e he => ?_
    rcases List.mem_pair.1 he with rfl | rfl
    · exact hdirect
    · exact hdecomp

/-- Compiled concepts are shaped, and there are none only for no concepts. -/
theorem concepts_shaped (cs : List Concept) {es : List Expression} (h : k.concepts cs = .ok es) :
    (∀ e ∈ es, k.Shaped cs e) ∧ (es = [] → cs = []) := by
  -- Induction on the tree, children first as the compiler goes.
  induction cs using listInduction generalizing es with
  | nil =>
    cases h
    exact ⟨fun e he => (List.not_mem_nil he).elim, fun _ => rfl⟩
  | cons c rest ihc ihr =>
    obtain ⟨e, more, he, hmore, rfl⟩ := (k.concepts_cons_eq_ok_iff).1 h
    obtain ⟨parts, ws, hparts, hws, rfl⟩ := (k.concept_eq_ok_iff).1 he
    have hhead : k.Shaped [c] (k.mode.join ws parts) := concept_shaped hp (ihc hparts).1 hws
    refine ⟨fun e' he' => ?_, fun h' => (List.cons_ne_nil _ _ h').elim⟩
    rcases List.mem_cons.1 he' with rfl | he'
    · refine Shaped.mono k (fun n hn => mem_nodesAll_cons.2 ?_) hhead
      rw [nodesAll_singleton, mem_nodes] at hn
      exact hn.imp_right .inl
    · exact Shaped.mono k (fun n hn => mem_nodesAll_cons.2 (.inr (.inr hn))) ((ihr hmore).1 e' he')

/-- With a provider whose expressions have no conjunction or disjunction of fewer than two
clauses, a compiled tree has none either; match all lies in it only for a tree without concepts
or where the provider gave it, and match none only without fields or where the provider gave
it. -/
theorem tree_shaped (t : SpanTree) {e : Expression} (h : k.tree t = .ok e) :
    e.Collapsed ∧
      (Occurs .matchAll e → t.concepts = [] ∨ k.ProviderGives t.concepts .matchAll) ∧
      (Occurs .matchNone e →
        k.fields.entries = [] ∨ k.ProviderGives t.concepts .matchNone) := by
  rw [tree_eq_map] at h
  cases hparts : k.concepts t.concepts with
  | error err =>
    rw [hparts] at h
    cases h
  | ok parts =>
    rw [hparts] at h
    cases h
    obtain ⟨hshaped, hnil⟩ := concepts_shaped hp t.concepts hparts
    -- A constant of the conjunction is match all of no concepts, or lies in a concept.
    have hconst : ∀ x, x.isConstant = true → Occurs x (allOf parts) →
        (parts = [] ∧ x = .matchAll) ∨
          (x = .matchNone ∧ k.fields.entries = []) ∨ k.ProviderGives t.concepts x := by
      intro x hx hocc
      rcases collapses_allOf.occurs_constant parts hx hocc with hempty | ⟨p, hp', hxp⟩
      · exact .inl hempty
      · exact .inr ((hshaped p hp').2 x hx hxp)
    refine ⟨(collapses_allOf.collapsed_iff parts).2 fun p hp' => (hshaped p hp').1,
      fun hocc => ?_, fun hocc => ?_⟩
    · rcases hconst _ rfl hocc with ⟨hempty, -⟩ | ⟨h', -⟩ | hgives
      · exact .inl (hnil hempty)
      · cases h'
      · exact .inr hgives
    · rcases hconst _ rfl hocc with ⟨-, h'⟩ | ⟨-, hfields⟩ | hgives
      · cases h'
      · exact .inl hfields
      · exact .inr hgives

end Provider

end Compiler

namespace FieldsQuery

open Expression

/-- The clause of a position with some text, over some fields, is a disjunction of leaves that
are collapsed and hold no match none. -/
theorem clause_collapsed {fs : FieldWeights} {texts : List String} (hfs : fs.entries ≠ [])
    (htexts : texts ≠ []) :
    (clause fs texts).Collapsed ∧ ¬ Occurs .matchNone (clause fs texts) := by
  -- The alternatives are leaves, one for each text in each field, so there is one at least.
  obtain ⟨es, hleaves, hne, hclause⟩ : ∃ es : List Expression,
      (∀ e ∈ es, ∃ f t b, e = .leaf f t b) ∧ es ≠ [] ∧ clause fs texts = anyOf es := by
    refine ⟨_, ?_, ?_, rfl⟩
    · intro e he
      obtain ⟨text, -, he⟩ := List.mem_flatMap.1 he
      obtain ⟨⟨f, w⟩, -, rfl⟩ := List.mem_map.1 he
      exact ⟨f, text, w, rfl⟩
    · obtain ⟨text, rest, rfl⟩ := List.exists_cons_of_ne_nil htexts
      obtain ⟨fw, frest, hfw⟩ := List.exists_cons_of_ne_nil hfs
      simp [hfw]
  rw [hclause]
  refine ⟨(collapses_anyOf.collapsed_iff es).2 fun e he => ?_, fun hocc => ?_⟩
  · obtain ⟨f, t, b, rfl⟩ := hleaves e he
    exact collapsed_leaf f t b
  · rcases collapses_anyOf.occurs_constant es rfl hocc with ⟨hnil, -⟩ | ⟨e, he, hxe⟩
    · exact hne hnil
    · obtain ⟨f, t, b, rfl⟩ := hleaves e he
      exact not_occurs_leaf rfl f t b hxe

/-- Every group of a new query has a text. -/
theorem ne_nil_of_mem_positions {fields : FieldWeights} {a : Analyzer} {text : String}
    {q : FieldsQuery} (hq : new fields a text = .ok q) {texts : List String}
    (h : texts ∈ q.positions) : texts ≠ [] := by
  unfold new at hq
  split at hq
  · cases hq
  · cases hq
    obtain ⟨u, hu, rfl⟩ := mem_groupByPosition (Term.pairwise_sortByPosition _) h
    exact List.ne_nil_of_mem (mem_textsAt.2 ⟨u, hu, rfl, rfl⟩)

/-- The expression of a query across fields, with any weight, has no conjunction or disjunction
of fewer than two clauses and no match none. -/
theorem toExpression_collapsed {fields : FieldWeights} {a : Analyzer} {text : String}
    {q : FieldsQuery} (hq : new fields a text = .ok q) (b : Float32) :
    ({ q with boost := b }).toExpression.Collapsed ∧
      ¬ Occurs .matchNone ({ q with boost := b }).toExpression := by
  have hfs : q.fields.entries ≠ [] := by
    unfold new at hq
    split at hq
    · cases hq
    · rename_i hne
      cases hq
      simpa [FieldWeights.isEmpty] using hne
  have hclauses : ∀ e ∈ q.positions.map (clause q.fields),
      e.Collapsed ∧ ¬ Occurs .matchNone e := by
    intro e he
    obtain ⟨texts, htexts, rfl⟩ := List.mem_map.1 he
    exact clause_collapsed hfs (ne_nil_of_mem_positions hq htexts)
  simp only [toExpression, compileFor_eq]
  refine ⟨(collapsed_withBoost _ b).2 ((collapses_allOf.collapsed_iff _).2
    fun e he => (hclauses e he).1), fun hocc => ?_⟩
  rw [occurs_withBoost rfl] at hocc
  rcases collapses_allOf.occurs_constant _ rfl hocc with ⟨-, h⟩ | ⟨e, he, hxe⟩
  · cases h
  · exact (hclauses e he).2 hxe

end FieldsQuery

/-- Compiling a tree with a provider whose expressions have no conjunction or disjunction of
fewer than two clauses gives an expression without one either, in which match all stands only
for a tree without concepts or comes from the provider, and match none only for no fields or
comes from the provider. A query across fields has no such combination and no match none. -/
theorem collapsed_and_constants :
    (∀ (k : Compiler), (∀ f w r, k.provider.expand f w = .ok r → r.Collapsed) →
      ∀ (t : SpanTree) (e : Expression), k.tree t = .ok e →
        e.Collapsed ∧
        (Expression.Occurs .matchAll e →
          t.concepts = [] ∨ k.ProviderGives t.concepts .matchAll) ∧
        (Expression.Occurs .matchNone e →
          k.fields.entries = [] ∨ k.ProviderGives t.concepts .matchNone)) ∧
    (∀ (fields : FieldWeights) (a : Analyzer) (text : String) (q : FieldsQuery),
      FieldsQuery.new fields a text = .ok q → ∀ b : Float32,
        ({ q with boost := b }).toExpression.Collapsed ∧
          ¬ Expression.Occurs .matchNone ({ q with boost := b }).toExpression) :=
  ⟨fun _ hp t _ h => Compiler.tree_shaped hp t h,
    fun _ _ _ _ hq b => FieldsQuery.toExpression_collapsed hq b⟩

/-- The term provider gives single leaves. A compound with two parts and an alternate writing,
compiled over two weighted fields with soft disjunctions, and a query across fields with a weight,
for a compound stacked on its first part and a second word. -/
theorem collapsed_and_constants_compound :
    let k : Compiler := ⟨⟨[("title", 1), ("body", 2)], by decide⟩, .term, .disMax 0.5⟩
    let t : SpanTree := ⟨[⟨⟨"wi-fi", 0, 5, 0⟩, ["wifi"],
      [⟨⟨"wi", 0, 2, 0⟩, [], []⟩, ⟨⟨"fi", 3, 5, 0⟩, [], []⟩]⟩]⟩
    let fs : FieldWeights := ⟨[("title", 3), ("body", 1)], by decide⟩
    let a : Analyzer := .replay [⟨"wi-fi", 0, 0, 5, false, 1⟩, ⟨"wi", 0, 0, 2, false, 0⟩,
      ⟨"zone", 0, 6, 10, false, 1⟩]
    (∀ f w r, k.provider.expand f w = .ok r → r.Collapsed) ∧
    (∃ e, k.tree t = .ok e ∧ e.Collapsed ∧
      (Expression.Occurs .matchAll e →
        t.concepts = [] ∨ k.ProviderGives t.concepts .matchAll) ∧
      (Expression.Occurs .matchNone e →
        k.fields.entries = [] ∨ k.ProviderGives t.concepts .matchNone)) ∧
    ∃ q, FieldsQuery.new fs a "wi-fi zone" = .ok q ∧
      ({ q with boost := 2 }).toExpression.Collapsed ∧
      ¬ Expression.Occurs .matchNone ({ q with boost := 2 }).toExpression := by
  intro k t fs a
  have hp : ∀ f w r, k.provider.expand f w = .ok r → r.Collapsed := by
    intro f w r hr
    cases hr
    exact Expression.collapsed_leaf f w 1
  exact ⟨hp, ⟨_, rfl, collapsed_and_constants.1 k hp t _ rfl⟩,
    ⟨_, rfl, collapsed_and_constants.2 fs a _ _ rfl 2⟩⟩

end ConceptQuery
