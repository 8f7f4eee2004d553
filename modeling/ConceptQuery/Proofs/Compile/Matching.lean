import ConceptQuery.Query.Compile
import ConceptQuery.Query.Index
import ConceptQuery.Proofs.SpanTree.Nodes

/-!
# What a compiled tree matches

Compiling a span tree succeeds whenever the provider succeeds on every writing of every concept
in every field, and the expression it gives matches a document exactly when every top-level
concept is *satisfied* (`tree_accepts_iff_satisfies`): a concept is satisfied when one of its
writings, in one of the fields, gives an expression that matches the document, or when it has
children and all of them are satisfied.

**Why the weights and the mode do not matter.** A weight only scales scores (`withBoost`), and
both ways of combining alternatives match when some alternative does (`accepts_combine`). The
collapsing constructors keep this reading: a conjunction of no clauses matches everything, a
disjunction of none nothing, and one clause stands for itself (`accepts_allOf`,
`accepts_anyOf`). So `Satisfies` reads only the field names, the provider and the document.

**The proof** follows the compiler: the expansions of a writing over the fields
(`mapM_expandIn_eq_ok`), over all writings (`expandWritings_eq_ok`), then a concept from its
children and writings (`concept_eq_ok`), by induction on the tree (`concepts_eq_ok`). The steps
of the compiler are stated once as equations, errors included: a concept is its children, then
its writings, joined by the mode (`concept_eq_bind`, `CombineMode.join`), and a tree is the
conjunction of its concepts (`tree_eq_map`).
-/

namespace ConceptQuery

namespace Expression

/-! ### Matching through the constructors -/

variable (d : Document)

/-- No expression matches from an empty list. -/
@[simp] theorem acceptsAny_nil : acceptsAny d [] = false := rfl

/-- Some expression of a list matches when the first does or one of the rest. -/
@[simp] theorem acceptsAny_cons (e : Expression) (es : List Expression) :
    acceptsAny d (e :: es) = (e.accepts d || acceptsAny d es) := rfl

/-- Every expression of an empty list matches. -/
@[simp] theorem acceptsAll_nil : acceptsAll d [] = true := rfl

/-- Every expression of a list matches when the first does and all the rest. -/
@[simp] theorem acceptsAll_cons (e : Expression) (es : List Expression) :
    acceptsAll d (e :: es) = (e.accepts d && acceptsAll d es) := rfl

/-- Some expression of two lists matches when one of either list does. -/
theorem acceptsAny_append (es es' : List Expression) :
    acceptsAny d (es ++ es') = (acceptsAny d es || acceptsAny d es') := by
  induction es with
  | nil => simp
  | cons e es ih => simp [ih, Bool.or_assoc]

/-- A weight changes the score of an expression, never what it matches. -/
@[simp] theorem accepts_withBoost (e : Expression) (w : Float32) :
    (e.withBoost w).accepts d = e.accepts d := by
  unfold withBoost
  split
  · rfl
  · cases e <;> rfl

/-- A conjunction matches when all its clauses do. -/
@[simp] theorem accepts_allOf (es : List Expression) : (allOf es).accepts d = acceptsAll d es := by
  match es with
  | [] => rfl
  | [e] => simp [allOf]
  | _ :: _ :: _ => rfl

/-- A disjunction matches when one of its clauses does. -/
@[simp] theorem accepts_anyOf (es : List Expression) : (anyOf es).accepts d = acceptsAny d es := by
  match es with
  | [] => rfl
  | [e] => simp [anyOf]
  | _ :: _ :: _ => rfl

/-- A soft disjunction matches as the plain one: the tie breaker only scores. -/
@[simp] theorem accepts_softAnyOf (tb : Float32) (es : List Expression) :
    (softAnyOf tb es).accepts d = acceptsAny d es := by
  match es with
  | [] => rfl
  | [e] => simp [softAnyOf]
  | _ :: _ :: _ => rfl

end Expression

/-- Both ways of combining alternatives match when some alternative does. -/
@[simp] theorem CombineMode.accepts_combine (m : CombineMode) (d : Document)
    (es : List Expression) : (m.combine es).accepts d = Expression.acceptsAny d es := by
  cases m <;> simp [combine]

/-- The expression of a concept from the expansions of its writings (`direct`) and the
expressions of its children (`parts`): the combined alternatives, and with children, those
combined once more with the conjunction of the children. -/
def CombineMode.join (m : CombineMode) (direct parts : List Expression) : Expression :=
  match parts with
  | [] => m.combine direct
  | _ => m.combine [m.combine direct, Expression.allOf parts]

namespace Compiler

open ConceptQuery.Concept Expression

/-! ### Satisfied concepts -/

/-- A writing matches a document in some field: the provider's expression of the writing in
that field matches it. -/
def WritingMatches (names : List String) (p : Provider) (d : Document) (w : String) : Prop :=
  ∃ f ∈ names, ∃ e, p.expand f w = .ok e ∧ e.accepts d = true

/-- A concept is satisfied by a document when one of its writings matches in some field, or
when it has children and every child is satisfied. -/
inductive Satisfies (names : List String) (p : Provider) (d : Document) : Concept → Prop
  /-- One of the concept's writings matches. -/
  | writing {c : Concept} {w : String} :
      w ∈ c.writings → WritingMatches names p d w → Satisfies names p d c
  /-- The concept has parts and each is satisfied. -/
  | parts {c : Concept} :
      c.children ≠ [] → (∀ x ∈ c.children, Satisfies names p d x) → Satisfies names p d c

/-- A concept is satisfied through one of its writings or, when it has parts, through all its parts.
-/
theorem satisfies_iff {names : List String} {p : Provider} {d : Document} {c : Concept} :
    Satisfies names p d c ↔
      (∃ w ∈ c.writings, WritingMatches names p d w) ∨
        (c.children ≠ [] ∧ ∀ x ∈ c.children, Satisfies names p d x) := by
  constructor
  · rintro (⟨hw, hm⟩ | ⟨hne, hall⟩)
    · exact .inl ⟨_, hw, hm⟩
    · exact .inr ⟨hne, hall⟩
  · rintro (⟨w, hw, hm⟩ | ⟨hne, hall⟩)
    · exact .writing hw hm
    · exact .parts hne hall

/-! ### The compiler, step by step -/

variable (k : Compiler)

/-- The provider's expression of a writing in one field, scaled by the field's weight. -/
def expandIn (w : String) : String × Float32 → Except Error Expression
  | (f, weight) => do
    let e ← k.provider.expand f w
    pure (e.withBoost weight)

/-- The expressions of writings are those of the first in each field, then those of the rest. -/
theorem expandWritings_cons (w : String) (rest : List String) :
    k.expandWritings (w :: rest) = (do
      let here ← k.fields.entries.mapM (k.expandIn w)
      let more ← k.expandWritings rest
      pure (here ++ more)) := rfl

/-- A writing expanded in a field is the provider's expression scaled by the field's weight. -/
theorem expandIn_eq_ok {w : String} {fw : String × Float32} {e : Expression}
    (he : k.provider.expand fw.1 w = .ok e) : k.expandIn w fw = .ok (e.withBoost fw.2) := by
  obtain ⟨f, weight⟩ := fw
  simp only at he
  simp only [expandIn, he]
  rfl

/-- Expanding a writing over fields succeeds when the provider does on each, and some expansion
matches a document exactly when the provider's expression in some field does. -/
theorem mapM_expandIn_eq_ok (w : String) (fs : List (String × Float32))
    (hp : ∀ fw ∈ fs, ∃ e, k.provider.expand fw.1 w = .ok e) :
    ∃ es, fs.mapM (k.expandIn w) = .ok es ∧ ∀ d, (acceptsAny d es = true ↔
      ∃ fw ∈ fs, ∃ e, k.provider.expand fw.1 w = .ok e ∧ e.accepts d = true) := by
  induction fs with
  | nil => exact ⟨[], rfl, fun d => by simp⟩
  | cons fw fs ih =>
    obtain ⟨e, he⟩ := hp fw List.mem_cons_self
    obtain ⟨es, hes, hacc⟩ := ih fun fw' hfw' => hp fw' (List.mem_cons_of_mem _ hfw')
    refine ⟨e.withBoost fw.2 :: es, ?_, fun d => ?_⟩
    · rw [List.mapM_cons, k.expandIn_eq_ok he, hes]
      rfl
    · rw [acceptsAny_cons, Bool.or_eq_true, accepts_withBoost, hacc d, List.exists_mem_cons_iff]
      simp only [he, Except.ok.injEq, exists_eq_left']

/-- Expanding writings succeeds when the provider does on each writing in each field, and some
expansion matches a document exactly when some writing matches it. -/
theorem expandWritings_eq_ok (ws : List String)
    (hp : ∀ w ∈ ws, ∀ f ∈ k.fields.names, ∃ e, k.provider.expand f w = .ok e) :
    ∃ es, k.expandWritings ws = .ok es ∧
      ∀ d, (acceptsAny d es = true ↔ ∃ w ∈ ws, WritingMatches k.fields.names k.provider d w) := by
  induction ws with
  | nil => exact ⟨[], rfl, fun d => by simp⟩
  | cons w rest ih =>
    have hfields : ∀ fw ∈ k.fields.entries, ∃ e, k.provider.expand fw.1 w = .ok e :=
      fun fw hfw => hp w List.mem_cons_self fw.1 (List.mem_map_of_mem hfw)
    obtain ⟨here, hhere, hacc⟩ := k.mapM_expandIn_eq_ok w k.fields.entries hfields
    obtain ⟨more, hmore, hacc'⟩ := ih fun w' hw' => hp w' (List.mem_cons_of_mem _ hw')
    refine ⟨here ++ more, ?_, fun d => ?_⟩
    · rw [expandWritings_cons, hhere, hmore]
      rfl
    · rw [acceptsAny_append, Bool.or_eq_true, hacc d, hacc' d, List.exists_mem_cons_iff]
      simp only [WritingMatches, FieldWeights.names, List.mem_map]
      -- A field of the list is the name of one of its entries.
      constructor
      · rintro (⟨fw, hfw, e, he, ha⟩ | h)
        · exact .inl ⟨fw.1, ⟨fw, hfw, rfl⟩, e, he, ha⟩
        · exact .inr h
      · rintro (⟨f, ⟨fw, hfw, rfl⟩, e, he, ha⟩ | h)
        · exact .inl ⟨fw, hfw, e, he, ha⟩
        · exact .inr h

/-- A concept compiles in three steps: its children, then its writings, then the two joined by
the mode. -/
theorem concept_eq_bind (c : Concept) :
    k.concept c = k.concepts c.children >>= fun parts =>
      k.expandWritings c.writings >>= fun es => pure (k.mode.join es parts) := by
  obtain ⟨term, alts, children⟩ := c
  simp only [concept, writings]
  congr
  funext parts
  congr
  funext es
  cases parts <;> rfl

/-- The expressions of concepts are that of the first, then those of the rest. -/
theorem concepts_cons (c : Concept) (rest : List Concept) :
    k.concepts (c :: rest) =
      k.concept c >>= fun e => k.concepts rest >>= fun more => pure (e :: more) := rfl

/-- The expression of a tree is the conjunction of its concepts' expressions: match all for no
concept is the conjunction of none. -/
theorem tree_eq_map (t : SpanTree) : k.tree t = allOf <$> k.concepts t.concepts := by
  simp only [tree]
  cases k.concepts t.concepts with
  | error e => rfl
  | ok parts => cases parts <;> rfl

/-- A concept without parts compiles to its writings combined. -/
theorem concept_eq_ok_of_leaf {c : Concept} {ws : List Expression}
    (hparts : k.concepts c.children = .ok []) (hws : k.expandWritings c.writings = .ok ws) :
    k.concept c = .ok (k.mode.combine ws) := by
  rw [concept_eq_bind, hparts, hws]
  rfl

/-- A concept with parts combines its writings with the conjunction of its parts. -/
theorem concept_eq_ok_of_parts {c : Concept} {p : Expression} {ps ws : List Expression}
    (hparts : k.concepts c.children = .ok (p :: ps)) (hws : k.expandWritings c.writings = .ok ws) :
    k.concept c = .ok (k.mode.combine [k.mode.combine ws, allOf (p :: ps)]) := by
  rw [concept_eq_bind, hparts, hws]
  rfl

/-- When the first concept and the rest compile, the list compiles to their expressions. -/
theorem concepts_cons_eq_ok {c : Concept} {rest : List Concept} {e : Expression}
    {es : List Expression} (he : k.concept c = .ok e) (hes : k.concepts rest = .ok es) :
    k.concepts (c :: rest) = .ok (e :: es) := by
  simp only [concepts, he, hes]
  rfl

/-- A concept compiles when its children compile and its writings expand, and its expression
matches a document exactly when the concept is satisfied: a leaf through its writings, a concept
with children through its writings or through all its children. -/
theorem concept_eq_ok {c : Concept} {parts : List Expression}
    (hparts : k.concepts c.children = .ok parts) (hnil : parts = [] ↔ c.children = [])
    (hall : ∀ d, acceptsAll d parts = true ↔
      ∀ x ∈ c.children, Satisfies k.fields.names k.provider d x)
    (hp : ∀ w ∈ c.writings, ∀ f ∈ k.fields.names, ∃ e, k.provider.expand f w = .ok e) :
    ∃ e, k.concept c = .ok e ∧
      ∀ d, (e.accepts d = true ↔ Satisfies k.fields.names k.provider d c) := by
  obtain ⟨ws, hws, hany⟩ := k.expandWritings_eq_ok c.writings hp
  cases parts with
  | nil =>
    refine ⟨k.mode.combine ws, k.concept_eq_ok_of_leaf hparts hws, fun d => ?_⟩
    have hleaf : c.children = [] := hnil.1 rfl
    rw [CombineMode.accepts_combine, hany d, satisfies_iff, hleaf]
    simp
  | cons p ps =>
    refine ⟨_, k.concept_eq_ok_of_parts hparts hws, fun d => ?_⟩
    have hne : c.children ≠ [] := fun h => List.cons_ne_nil p ps (hnil.2 h)
    rw [CombineMode.accepts_combine, acceptsAny_cons, acceptsAny_cons, acceptsAny_nil,
      CombineMode.accepts_combine, accepts_allOf, Bool.or_false, Bool.or_eq_true, hany d,
      hall d, satisfies_iff]
    simp only [hne, ne_eq, not_false_eq_true, true_and]

/-- Concepts compile when the provider succeeds on every writing below them in every field; the
list of expressions is empty exactly when there are no concepts, and all of them match a document
exactly when every concept is satisfied. -/
theorem concepts_eq_ok (cs : List Concept)
    (hp : ∀ n ∈ nodesAll cs, ∀ w ∈ n.writings, ∀ f ∈ k.fields.names,
      ∃ e, k.provider.expand f w = .ok e) :
    ∃ es, k.concepts cs = .ok es ∧ (es = [] ↔ cs = []) ∧
      ∀ d, (acceptsAll d es = true ↔ ∀ c ∈ cs, Satisfies k.fields.names k.provider d c) := by
  -- Induction on the tree: a concept needs its children compiled first, as the compiler does.
  induction cs using listInduction with
  | nil => exact ⟨[], rfl, iff_of_true rfl rfl, fun d => by simp⟩
  | cons c rest ihc ihr =>
    have hp' := forall_nodesAll_cons.1 hp
    obtain ⟨parts, hparts, hnil, hall⟩ := ihc hp'.2.1
    obtain ⟨e, he, hacc⟩ := k.concept_eq_ok hparts hnil hall hp'.1
    obtain ⟨more, hmore, -, hall'⟩ := ihr hp'.2.2
    refine ⟨e :: more, k.concepts_cons_eq_ok he hmore, by simp, fun d => ?_⟩
    rw [acceptsAll_cons, Bool.and_eq_true, hacc d, hall' d, List.forall_mem_cons]

/-- The expression of a tree is the conjunction of its concepts' expressions, which is match all
when there are none. -/
theorem tree_eq_ok {t : SpanTree} {parts : List Expression}
    (h : k.concepts t.concepts = .ok parts) : k.tree t = .ok (allOf parts) := by
  rw [tree_eq_map, h]
  rfl

/-- Compiling a tree succeeds when the provider succeeds on every writing of every concept in
every field, and the expression matches a document exactly when every top-level concept is
satisfied. What is matched depends on the field names and the provider only, not on the mode or
the field weights; the empty tree matches every document. -/
theorem tree_accepts_iff_satisfies (t : SpanTree)
    (hp : ∀ n ∈ nodesAll t.concepts, ∀ w ∈ n.writings, ∀ f ∈ k.fields.names,
      ∃ e, k.provider.expand f w = .ok e) :
    ∃ e, k.tree t = .ok e ∧
      ∀ d, (e.accepts d = true ↔ ∀ c ∈ t.concepts, Satisfies k.fields.names k.provider d c) := by
  obtain ⟨parts, hparts, -, hall⟩ := k.concepts_eq_ok t.concepts hp
  refine ⟨allOf parts, k.tree_eq_ok hparts, fun d => ?_⟩
  rw [accepts_allOf, hall d]

/-- Two weighted fields, soft disjunctions and the exact-term provider, on a compound with two
parts. -/
theorem tree_accepts_iff_satisfies_compound :
    let k : Compiler := ⟨⟨[("title", 1), ("body", 2)], by decide⟩, .term, .disMax 0.5⟩
    let t := SpanTree.build [⟨"wi-fi", 0, 5, 0⟩, ⟨"wi", 0, 2, 0⟩, ⟨"fi", 3, 5, 0⟩]
    (∀ n ∈ nodesAll t.concepts, ∀ w ∈ n.writings, ∀ f ∈ k.fields.names,
      ∃ e, k.provider.expand f w = .ok e) ∧
    ∃ e, k.tree t = .ok e ∧
      ∀ d, (e.accepts d = true ↔ ∀ c ∈ t.concepts, Satisfies k.fields.names k.provider d c) :=
  ⟨fun _ _ _ _ _ _ => ⟨_, rfl⟩, tree_accepts_iff_satisfies _ _ fun _ _ _ _ _ _ => ⟨_, rfl⟩⟩

end Compiler

end ConceptQuery
