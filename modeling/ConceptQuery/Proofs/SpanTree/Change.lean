import ConceptQuery.Proofs.SpanTree.Nodes

/-!
# Where an insertion changes a tree

`ChangedAt step d cs cs'` says that `cs'` is `cs` with one list of siblings at depth `d` changed
by `step` and nothing else changed: the top level is depth one, and a change inside the children
of a sibling is one level deeper than the same change made to those children alone.

Insertion makes one of two changes: it appends the term's text to the alternates of a concept of
the term's span (`AppendsWriting`), or it puts a leaf of the term among siblings
(`InsertsLeaf`). `insertAmong_describes` says that the placement an insertion reports names the
change it made and its depth, and `insertAmong_alternate_iff`, `insertAmong_newConcept_iff` turn
this into an equivalence: no change can be read as both kinds, nor at two depths.

What a change does to the whole tree follows from the change alone: an appended writing keeps
every concept's term, a new leaf adds the term once, and either adds the term's text once to the
writings of the tree.
-/

namespace ConceptQuery

namespace Concept

/-- The text of `t` appended to the alternates of one sibling of `t`'s span. -/
def AppendsWriting (t : Term) (cs cs' : List Concept) : Prop :=
  ∃ pre c post, c.term.span = t.span ∧ cs = pre ++ c :: post ∧
    cs' = pre ++ { c with alternates := c.alternates ++ [t.text] } :: post

/-- A leaf of `t` put among the siblings. -/
def InsertsLeaf (t : Term) (cs cs' : List Concept) : Prop :=
  ∃ pre post, cs = pre ++ post ∧ cs' = pre ++ leaf t :: post

/-- `cs'` is `cs` with one list of siblings at depth `d` changed by `step`: the top level itself
at depth one, or the children of one sibling at a greater depth. -/
inductive ChangedAt (step : List Concept → List Concept → Prop) :
    Nat → List Concept → List Concept → Prop where
  /-- The siblings themselves are changed. -/
  | here {cs cs' : List Concept} : step cs cs' → ChangedAt step 1 cs cs'
  /-- The children of one sibling are changed. -/
  | inside {d : Nat} {pre post : List Concept} {c : Concept} {children' : List Concept} :
      ChangedAt step d c.children children' →
        ChangedAt step (d + 1) (pre ++ c :: post)
          (pre ++ { c with children := children' } :: post)

/-- An alternate writing appended among siblings is appended among them behind one more. -/
theorem AppendsWriting.cons {t : Term} {cs cs' : List Concept} (c : Concept)
    (h : AppendsWriting t cs cs') : AppendsWriting t (c :: cs) (c :: cs') := by
  obtain ⟨pre, d, post, hd, rfl, rfl⟩ := h
  exact ⟨c :: pre, d, post, hd, rfl, rfl⟩

/-- A leaf inserted among siblings is inserted among them behind one more. -/
theorem InsertsLeaf.cons {t : Term} {cs cs' : List Concept} (c : Concept)
    (h : InsertsLeaf t cs cs') : InsertsLeaf t (c :: cs) (c :: cs') := by
  obtain ⟨pre, post, rfl, rfl⟩ := h
  exact ⟨c :: pre, post, rfl, rfl⟩

/-- A change behind a sibling is the same change with the sibling in front. -/
theorem ChangedAt.cons {step : List Concept → List Concept → Prop}
    (hstep : ∀ c cs cs', step cs cs' → step (c :: cs) (c :: cs')) (c : Concept) {d : Nat}
    {cs cs' : List Concept} (h : ChangedAt step d cs cs') :
    ChangedAt step d (c :: cs) (c :: cs') := by
  cases h with
  | here hs => exact .here (hstep c _ _ hs)
  | inside hc => exact @ChangedAt.inside _ _ (c :: _) _ _ _ hc

/-- A change in the children of the first sibling. -/
theorem ChangedAt.head {step : List Concept → List Concept → Prop} {d : Nat} {c : Concept}
    {rest children' : List Concept} (h : ChangedAt step d c.children children') :
    ChangedAt step (d + 1) (c :: rest) ({ c with children := children' } :: rest) :=
  @ChangedAt.inside _ _ [] _ _ _ h

end Concept

/-- The change a placement reports: an alternate writing of the term at depth `d`, or a new leaf
of the term at depth `d`. -/
def Placement.Describes (t : Term) : Placement → List Concept → List Concept → Prop
  | .alternate d => Concept.ChangedAt (Concept.AppendsWriting t) d
  | .newConcept d => Concept.ChangedAt (Concept.InsertsLeaf t) d

namespace Placement

/-- A placement among siblings describes the change behind one more sibling too. -/
theorem Describes.cons {t : Term} {p : Placement} {cs cs' : List Concept} (c : Concept)
    (h : p.Describes t cs cs') : p.Describes t (c :: cs) (c :: cs') := by
  cases p with
  | alternate d => exact Concept.ChangedAt.cons (fun c _ _ => Concept.AppendsWriting.cons c) c h
  | newConcept d => exact Concept.ChangedAt.cons (fun c _ _ => Concept.InsertsLeaf.cons c) c h

/-- A placement among a concept's children, seen one level higher, describes the change of the
concept. -/
theorem Describes.nested {t : Term} {p : Placement} {c : Concept}
    {rest children' : List Concept} (h : p.Describes t c.children children') :
    p.nested.Describes t (c :: rest) ({ c with children := children' } :: rest) := by
  cases p with
  | alternate d => exact Concept.ChangedAt.head h
  | newConcept d => exact Concept.ChangedAt.head h

end Placement

namespace Concept

/-! ### Insertion makes the change it reports -/

/-- The placement an insertion reports is the change it made, at the depth it made it. -/
theorem insertAmong_describes (cs : List Concept) (t : Term) :
    (insertAmong cs t).2.Describes t cs (insertAmong cs t).1 := by
  induction cs, t using insertAmong_induction with
  | nil t => exact .here ⟨[], [], rfl, rfl⟩
  | same c rest t h =>
    rw [insertAmong_cons_same h]
    exact .here ⟨[], c, rest, Term.spanCmp_eq_eq.1 h, rfl, rfl⟩
  | before c rest t h =>
    rw [insertAmong_cons_before h]
    exact .here ⟨[], c :: rest, rfl, rfl⟩
  | descend c rest t h hs hc ih =>
    rw [insertAmong_cons_descend h hs hc]
    exact Placement.Describes.nested ih
  | pass c rest t h hn ih =>
    rw [insertAmong_cons_pass h hn]
    exact Placement.Describes.cons c ih

/-! ### What a change does to the whole tree -/

/-- A change that keeps every concept's value of `f` outside the changed siblings adds to the
tree's values of `f` exactly what it adds to those siblings. The value of `f` must not read the
children, which a change below a concept replaces. -/
theorem ChangedAt.flatMap_perm {α : Type} [DecidableEq α] {step : List Concept → List Concept → Prop}
    {f : Concept → List α} {e : List α}
    (hf : ∀ c (x : List Concept), f { c with children := x } = f c)
    (hstep : ∀ cs cs', step cs cs' →
      ((nodesAll cs').flatMap f).Perm (e ++ (nodesAll cs).flatMap f))
    {d : Nat} {cs cs' : List Concept} (h : ChangedAt step d cs cs') :
    ((nodesAll cs').flatMap f).Perm (e ++ (nodesAll cs).flatMap f) := by
  induction h with
  | here hs => exact hstep _ _ hs
  | @inside d pre post c x _ ih =>
    rw [List.perm_iff_count] at ih ⊢
    intro a
    have := ih a
    simp only [nodesAll_append, nodesAll_cons, nodes_eq, List.flatMap_append, List.flatMap_cons,
      List.count_append, hf] at this ⊢
    omega

/-- Over all nodes, an appended writing changes only what the changed concept contributes. -/
theorem AppendsWriting.flatMap_perm {α : Type} [DecidableEq α] {t : Term} {f : Concept → List α}
    {e : List α}
    (hf : ∀ c, (f { c with alternates := c.alternates ++ [t.text] }).Perm (e ++ f c))
    {cs cs' : List Concept} (h : AppendsWriting t cs cs') :
    ((nodesAll cs').flatMap f).Perm (e ++ (nodesAll cs).flatMap f) := by
  obtain ⟨pre, c, post, -, rfl, rfl⟩ := h
  have hc := List.perm_iff_count.1 (hf c)
  rw [List.perm_iff_count]
  intro a
  have := hc a
  simp only [nodesAll_append, nodesAll_cons, nodes_eq, List.flatMap_append, List.flatMap_cons,
    List.count_append] at this ⊢
  omega

/-- Over all nodes, an inserted leaf adds what the leaf contributes. -/
theorem InsertsLeaf.flatMap_perm {α : Type} [DecidableEq α] {t : Term} {f : Concept → List α}
    {cs cs' : List Concept} (h : InsertsLeaf t cs cs') :
    ((nodesAll cs').flatMap f).Perm (f (leaf t) ++ (nodesAll cs).flatMap f) := by
  obtain ⟨pre, post, rfl, rfl⟩ := h
  rw [List.perm_iff_count]
  intro a
  simp only [nodesAll_append, nodesAll_cons, nodes_leaf, List.flatMap_append, List.flatMap_cons,
    List.flatMap_nil, List.count_append, List.count_nil]
  omega

/-- An appended writing keeps the terms of all concepts. -/
theorem ChangedAt.terms_of_appendsWriting {t : Term} {d : Nat} {cs cs' : List Concept}
    (h : ChangedAt (AppendsWriting t) d cs cs') :
    ((nodesAll cs').map term).Perm ((nodesAll cs).map term) := by
  have := h.flatMap_perm (f := fun c => [c.term]) (e := []) (fun _ _ => rfl)
    (fun _ _ hs => hs.flatMap_perm fun _ => List.Perm.refl _)
  simpa only [List.map_eq_flatMap, List.nil_append] using this

/-- A new leaf adds its term once to the terms of all concepts. -/
theorem ChangedAt.terms_of_insertsLeaf {t : Term} {d : Nat} {cs cs' : List Concept}
    (h : ChangedAt (InsertsLeaf t) d cs cs') :
    ((nodesAll cs').map term).Perm (t :: (nodesAll cs).map term) := by
  have := h.flatMap_perm (f := fun c => [c.term]) (e := [t]) (fun _ _ => rfl)
    (fun _ _ hs => hs.flatMap_perm)
  simpa only [List.map_eq_flatMap, List.singleton_append] using this

/-- An appended writing adds the term's text to the writings of all nodes. -/
theorem AppendsWriting.writings_perm {t : Term} {cs cs' : List Concept}
    (h : AppendsWriting t cs cs') :
    ((nodesAll cs').flatMap writings).Perm (t.text :: (nodesAll cs).flatMap writings) :=
  h.flatMap_perm (f := writings) (e := [t.text]) fun c => by
    simp only [writings, List.singleton_append]
    rw [← List.cons_append]
    exact List.perm_append_singleton _ _

/-- An appended writing adds the term's text once to the writings of the tree. -/
theorem ChangedAt.writings_of_appendsWriting {t : Term} {d : Nat} {cs cs' : List Concept}
    (h : ChangedAt (AppendsWriting t) d cs cs') :
    ((nodesAll cs').flatMap writings).Perm (t.text :: (nodesAll cs).flatMap writings) :=
  h.flatMap_perm (e := [t.text]) (fun _ _ => rfl) fun _ _ hs => hs.writings_perm

/-- A new leaf adds the term's text once to the writings of the tree. -/
theorem ChangedAt.writings_of_insertsLeaf {t : Term} {d : Nat} {cs cs' : List Concept}
    (h : ChangedAt (InsertsLeaf t) d cs cs') :
    ((nodesAll cs').flatMap writings).Perm (t.text :: (nodesAll cs).flatMap writings) :=
  h.flatMap_perm (e := [t.text]) (fun _ _ => rfl) fun _ _ hs => hs.flatMap_perm

/-- What a concept says apart from its children: its term and its alternates. -/
def label (c : Concept) : Term × List String := (c.term, c.alternates)

/-- Seen through the labels of all concepts in preorder, an appended writing changes one label,
of the term's span, by adding the text to its alternates; the ancestors whose children changed
keep their labels. -/
theorem ChangedAt.labels_of_appendsWriting {t : Term} {d : Nat} {cs cs' : List Concept}
    (h : ChangedAt (AppendsWriting t) d cs cs') :
    ∃ pre u alts post, u.span = t.span ∧ (nodesAll cs).map label = pre ++ (u, alts) :: post ∧
      (nodesAll cs').map label = pre ++ (u, alts ++ [t.text]) :: post := by
  induction h with
  | here hs =>
    obtain ⟨pre, c, post, hc, rfl, rfl⟩ := hs
    refine ⟨(nodesAll pre).map label, c.term, c.alternates,
      (nodesAll c.children ++ nodesAll post).map label, hc, ?_, ?_⟩
    · simp [label]
    · simp [label]
  | @inside d pre post c x _ ih =>
    obtain ⟨p, u, alts, q, hu, h1, h2⟩ := ih
    refine ⟨(nodesAll pre).map label ++ label c :: p, u, alts, q ++ (nodesAll post).map label, hu,
      ?_, ?_⟩
    · simp [h1]
    · simp [h2, label]

/-- Seen through the labels of all concepts in preorder, a new leaf adds one label: the term,
without alternates. -/
theorem ChangedAt.labels_of_insertsLeaf {t : Term} {d : Nat} {cs cs' : List Concept}
    (h : ChangedAt (InsertsLeaf t) d cs cs') :
    ∃ pre post, (nodesAll cs).map label = pre ++ post ∧
      (nodesAll cs').map label = pre ++ (t, []) :: post := by
  induction h with
  | here hs =>
    obtain ⟨pre, post, rfl, rfl⟩ := hs
    exact ⟨(nodesAll pre).map label, (nodesAll post).map label, by simp, by simp [label, leaf]⟩
  | @inside d pre post c x _ ih =>
    obtain ⟨p, q, h1, h2⟩ := ih
    refine ⟨(nodesAll pre).map label ++ label c :: p, q ++ (nodesAll post).map label, ?_, ?_⟩
    · simp [h1]
    · simp [h2, label]

/-! ### A change is read one way only -/

/-- Writing one list as `pre ++ a :: post` in two ways, where replacing the middle element
changes the list, gives the same list after replacing it only if both ways pick the same
place. -/
private theorem append_cons_inj {α : Type} {pre pre' post post' : List α} {a a' b b' : α}
    (h : pre ++ a :: post = pre' ++ b :: post') (h' : pre ++ a' :: post = pre' ++ b' :: post')
    (ha : a ≠ a') (hb : b ≠ b') : pre = pre' ∧ a = b ∧ post = post' ∧ a' = b' := by
  induction pre generalizing pre' with
  | nil =>
    cases pre' with
    | nil => simp_all
    | cons x pre' =>
      simp only [List.nil_append, List.cons_append, List.cons.injEq] at h h'
      exact absurd (h.1.trans h'.1.symm) ha
  | cons y pre ih =>
    cases pre' with
    | nil =>
      simp only [List.nil_append, List.cons_append, List.cons.injEq] at h h'
      exact absurd (h.1.symm.trans h'.1) hb
    | cons z pre' =>
      simp only [List.cons_append, List.cons.injEq] at h h'
      obtain ⟨rfl, h⟩ := h
      obtain ⟨rfl, rfl, rfl, rfl⟩ := ih h h'.2
      exact ⟨rfl, rfl, rfl, rfl⟩

/-- A change is a change of the siblings themselves, or a change inside one sibling. -/
theorem changedAt_iff {step : List Concept → List Concept → Prop} {d : Nat}
    {cs cs' : List Concept} :
    ChangedAt step d cs cs' ↔
      d = 1 ∧ step cs cs' ∨
        ∃ d' pre post c x, d = d' + 1 ∧ cs = pre ++ c :: post ∧
          cs' = pre ++ { c with children := x } :: post ∧ ChangedAt step d' c.children x := by
  constructor
  · rintro (hs | @⟨d', pre, post, c, x, hx⟩)
    · exact .inl ⟨rfl, hs⟩
    · exact .inr ⟨d', pre, post, c, x, rfl, rfl, rfl, hx⟩
  · rintro (⟨rfl, hs⟩ | ⟨d', pre, post, c, x, rfl, rfl, rfl, hx⟩)
    · exact .here hs
    · exact .inside hx

/-- The depth of a change is determined by the lists before and after it, for a step that
always changes the siblings and never only replaces the children of one of them. -/
theorem ChangedAt.depth_eq {step : List Concept → List Concept → Prop}
    (hne : ∀ {d cs cs'}, ChangedAt step d cs cs' → cs ≠ cs')
    (hstep : ∀ {cs cs' pre post c x}, step cs cs' → cs = pre ++ c :: post →
      cs' = pre ++ { c with children := x } :: post → False)
    {d d' : Nat} {cs cs' : List Concept} (h : ChangedAt step d cs cs')
    (h' : ChangedAt step d' cs cs') : d = d' := by
  induction h generalizing d' with
  | here hs =>
    rcases changedAt_iff.1 h' with ⟨rfl, -⟩ | ⟨_, _, _, _, _, -, h1, h2, -⟩
    · rfl
    · exact (hstep hs h1 h2).elim
  | @inside d pre post c x hx ih =>
    rcases changedAt_iff.1 h' with ⟨-, hs⟩ | ⟨d₂, pre₂, post₂, c₂, x₂, rfl, h1, h2, hx₂⟩
    · exact (hstep hs rfl rfl).elim
    · -- Both changes replace the children of one sibling; they pick the same sibling.
      have hc : c ≠ { c with children := x } := fun he => hne hx (congrArg children he)
      have hc₂ : c₂ ≠ { c₂ with children := x₂ } := fun he => hne hx₂ (congrArg children he)
      obtain ⟨-, rfl, -, he⟩ := append_cons_inj h1 h2 hc hc₂
      have hxx : x = x₂ := congrArg children he
      subst hxx
      rw [ih hx₂]

/-- A change at any depth that adds the term's text adds one writing. -/
theorem ChangedAt.length_writings {step : List Concept → List Concept → Prop} {t : Term}
    (hstep : ∀ {cs cs'}, step cs cs' →
      ((nodesAll cs').flatMap writings).Perm (t.text :: (nodesAll cs).flatMap writings))
    {d : Nat} {cs cs' : List Concept} (h : ChangedAt step d cs cs') :
    ((nodesAll cs').flatMap writings).length = ((nodesAll cs).flatMap writings).length + 1 := by
  have := (h.flatMap_perm (e := [t.text]) (fun _ _ => rfl) fun _ _ hs => hstep hs).length_eq
  simpa using this

/-- An appended writing is never only a change of one sibling's children. -/
theorem AppendsWriting.not_children {t : Term} {cs cs' pre post : List Concept} {c : Concept}
    {x : List Concept} (hs : AppendsWriting t cs cs') (h1 : cs = pre ++ c :: post)
    (h2 : cs' = pre ++ { c with children := x } :: post) : False := by
  obtain ⟨pre₁, c₁, post₁, -, rfl, rfl⟩ := hs
  have hc₁ : c₁ ≠ { c₁ with alternates := c₁.alternates ++ [t.text] } := fun he => by
    simpa using congrArg (fun c => c.alternates.length) he
  by_cases hc : c = { c with children := x }
  · rw [← hc, ← h1] at h2
    have := List.append_cancel_left h2
    rw [List.cons.injEq] at this
    exact hc₁ this.1.symm
  · obtain ⟨-, rfl, -, he⟩ := append_cons_inj h1 h2 hc₁ hc
    exact hc₁ (by simpa using congrArg alternates he)

/-- A new leaf is never only a change of one sibling's children: it makes the list longer. -/
theorem InsertsLeaf.not_children {t : Term} {cs cs' pre post : List Concept} {c : Concept}
    {x : List Concept} (hs : InsertsLeaf t cs cs') (h1 : cs = pre ++ c :: post)
    (h2 : cs' = pre ++ { c with children := x } :: post) : False := by
  obtain ⟨pre₁, post₁, rfl, rfl⟩ := hs
  have := congrArg List.length h1
  have := congrArg List.length h2
  simp at *
  omega

/-- An appended writing happens at one depth only. -/
theorem appendsWriting_depth_eq {t : Term} {d d' : Nat} {cs cs' : List Concept}
    (h : ChangedAt (AppendsWriting t) d cs cs') (h' : ChangedAt (AppendsWriting t) d' cs cs') :
    d = d' := by
  refine h.depth_eq (fun hc he => ?_) AppendsWriting.not_children h'
  have := hc.length_writings (t := t) AppendsWriting.writings_perm
  rw [he] at this
  omega

/-- An inserted leaf happens at one depth only. -/
theorem insertsLeaf_depth_eq {t : Term} {d d' : Nat} {cs cs' : List Concept}
    (h : ChangedAt (InsertsLeaf t) d cs cs') (h' : ChangedAt (InsertsLeaf t) d' cs cs') :
    d = d' := by
  refine h.depth_eq (fun hc he => ?_) InsertsLeaf.not_children h'
  have := hc.length_writings (t := t) InsertsLeaf.flatMap_perm
  rw [he] at this
  omega

/-- An appended writing and a new leaf never give the same tree: only the leaf adds a
concept. -/
theorem not_appendsWriting_and_insertsLeaf {t : Term} {d d' : Nat} {cs cs' : List Concept}
    (h : ChangedAt (AppendsWriting t) d cs cs') (h' : ChangedAt (InsertsLeaf t) d' cs cs') :
    False := by
  have h1 := h.terms_of_appendsWriting.length_eq
  have h2 := h'.terms_of_insertsLeaf.length_eq
  simp only [List.length_map, List.length_cons] at h1 h2
  omega

/-- Insertion reports an alternate writing at depth `d` exactly when it appended the term's text
to a concept of the term's span at depth `d`. -/
theorem insertAmong_alternate_iff {cs : List Concept} {t : Term} {d : Nat} :
    (insertAmong cs t).2 = .alternate d ↔
      ChangedAt (AppendsWriting t) d cs (insertAmong cs t).1 := by
  have hd := insertAmong_describes cs t
  constructor
  · intro h
    rw [h] at hd
    exact hd
  · intro h
    rcases hp : (insertAmong cs t).2 with d₀ | d₀ <;> rw [hp] at hd
    · exact (not_appendsWriting_and_insertsLeaf h hd).elim
    · rw [appendsWriting_depth_eq hd h]

/-- Insertion reports a new concept at depth `d` exactly when it put a leaf of the term among
the siblings at depth `d`. -/
theorem insertAmong_newConcept_iff {cs : List Concept} {t : Term} {d : Nat} :
    (insertAmong cs t).2 = .newConcept d ↔
      ChangedAt (InsertsLeaf t) d cs (insertAmong cs t).1 := by
  have hd := insertAmong_describes cs t
  constructor
  · intro h
    rw [h] at hd
    exact hd
  · intro h
    rcases hp : (insertAmong cs t).2 with d₀ | d₀ <;> rw [hp] at hd
    · rw [insertsLeaf_depth_eq hd h]
    · exact (not_appendsWriting_and_insertsLeaf hd h).elim

end Concept

end ConceptQuery
