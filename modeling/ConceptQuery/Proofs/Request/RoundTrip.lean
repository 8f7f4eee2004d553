import ConceptQuery.Proofs.Request.Checks
import ConceptQuery.Proofs.Query.AcrossFields

/-!
# Requests built and read back

A draft of a query across variants, built by any sequence of the builder's calls, is written as
JSON and read back by the default reader as the query it describes
(`RequestDraft.read_build_variants`): the text is the draft's value, the analyzer the one it
names (`standard` when none), the fields its fields (`FieldList.ReadsAs`), the weight its boost
(one when none), the mode the soft disjunction with its tie breaker exactly when it asked for
one, and the provider the one it names (`term` when none).

The draft must hold what the reader checks and what its writing cannot carry
(`RequestDraft.VariantsReady`): fields that can be written and read back
(`FieldList.Writable`), a value, names the default registries know, and settings in range.

**How.** Every draft the calls reach has distinct field names, of weight one while none was
given (`RequestDraft.Reachable.wellformed`). The body's settings are inserted in key order, so
the body is the settings that are set, each by itself, in a known order around the fields
(`RequestDraft.body_eq`). The reader reads them one key at a time, each key setting its own part
of the body read (`RequestDraft.readBody_settings`), and the checks after the keys all pass.
-/

namespace ConceptQuery

namespace RequestDraft

/-! ### Drafts reached by the builder's calls -/

/-- The drafts of a kind that the builder's calls reach from the empty draft. -/
inductive Reachable (kind : QueryKind) : RequestDraft → Prop
  /-- An empty draft. -/
  | new : Reachable kind (RequestDraft.new kind)
  /-- Its fields removed. -/
  | clearFields (d : RequestDraft) : Reachable kind d → Reachable kind d.clearFields
  /-- A field of weight one added. -/
  | addField (d : RequestDraft) (name : String) :
      Reachable kind d → Reachable kind (d.addField name)
  /-- A field of weight one made the only field. -/
  | field (d : RequestDraft) (name : String) : Reachable kind d → Reachable kind (d.field name)
  /-- A field with a weight added. -/
  | addWeightedField (d : RequestDraft) (name : String) (w : Float32) :
      Reachable kind d → Reachable kind (d.addWeightedField name w)
  /-- A field with a weight made the only field. -/
  | weightedField (d : RequestDraft) (name : String) (w : Float32) :
      Reachable kind d → Reachable kind (d.weightedField name w)
  /-- Fields of weight one added. -/
  | addFields (d : RequestDraft) (names : List String) :
      Reachable kind d → Reachable kind (d.addFields names)
  /-- Fields of weight one made the only fields. -/
  | setFields (d : RequestDraft) (names : List String) :
      Reachable kind d → Reachable kind (d.setFields names)
  /-- The text set. -/
  | withValue (d : RequestDraft) (v : String) : Reachable kind d → Reachable kind (d.withValue v)
  /-- The analyzer set. -/
  | withAnalyzer (d : RequestDraft) (a : String) :
      Reachable kind d → Reachable kind (d.withAnalyzer a)
  /-- The weight set. -/
  | withBoost (d : RequestDraft) (w : Float32) : Reachable kind d → Reachable kind (d.withBoost w)
  /-- The provider set. -/
  | withScript (d : RequestDraft) (s : String) : Reachable kind d → Reachable kind (d.withScript s)
  /-- The provider's parameters set. -/
  | withParams (d : RequestDraft) (ps : Json.Members) :
      Reachable kind d → Reachable kind (d.withParams ps)
  /-- The combine mode set. -/
  | withDisMax (d : RequestDraft) (b : Bool) : Reachable kind d → Reachable kind (d.withDisMax b)
  /-- The tie breaker set. -/
  | withTieBreaker (d : RequestDraft) (tb : Float32) :
      Reachable kind d → Reachable kind (d.withTieBreaker tb)

/-- Adding fields of weight one adds each to the field list, in order. -/
theorem addFields_eq (d : RequestDraft) (names : List String) :
    d.addFields names = { d with fields := names.foldl FieldList.add d.fields } := by
  induction names generalizing d with
  | nil => rfl
  | cons n rest ih => exact ih (d.addField n)

/-- The calls keep the kind. -/
theorem Reachable.kind_eq {kind : QueryKind} {d : RequestDraft} (h : Reachable kind d) :
    d.kind = kind := by
  induction h with
  | new => rfl
  | addFields d names _ ih =>
    rw [addFields_eq]
    exact ih
  | setFields d names _ ih =>
    rw [RequestDraft.setFields, addFields_eq]
    exact ih
  | _ => assumption

/-- The calls keep the field list well formed: distinct names, each of weight one while no weight
was given. -/
theorem Reachable.wellformed {kind : QueryKind} {d : RequestDraft} (h : Reachable kind d) :
    d.fields.Wellformed := by
  induction h with
  | new => exact FieldList.wellformed_empty
  | clearFields => exact FieldList.wellformed_empty
  | addField d name _ ih => exact ih.add name
  | field d name => exact FieldList.wellformed_empty.add name
  | addWeightedField d name w _ ih => exact FieldList.wellformed_addWeighted _ name w
  | weightedField d name w => exact FieldList.wellformed_addWeighted _ name w
  | addFields d names _ ih =>
    rw [addFields_eq]
    exact ih.foldl_add names
  | setFields d names =>
    rw [RequestDraft.setFields, addFields_eq]
    exact FieldList.wellformed_empty.foldl_add names
  | _ => assumption

/-! ### The body's layout -/

/-- The member a setting adds to a body by itself: none when it is unset. -/
def setting {α : Type} (key : String) (f : α → Json) (o : Option α) : Json.Members :=
  o.toList.map fun a => (key, f a)

/-- Every member of a setting is the key with the value, when there is one. -/
theorem forall_mem_setting {α : Type} {key : String} {f : α → Json} {o : Option α}
    {P : String × Json → Prop} : (∀ q ∈ setting key f o, P q) ↔ ∀ a ∈ o, P (key, f a) := by
  cases o <;> simp [setting]

/-- A setting put into no members is the setting alone. -/
theorem putSome_nil {α : Type} (key : String) (f : α → Json) (o : Option α) :
    putSome key f o [] = setting key f o := by
  cases o <;> rfl

/-- A setting whose key sorts below every key of the members goes first. -/
theorem putSome_of_lt {α : Type} (key : String) (f : α → Json) (o : Option α)
    {ms : Json.Members} (h : ∀ q ∈ ms, key < q.1) : putSome key f o ms = setting key f o ++ ms := by
  cases o with
  | none => rfl
  | some a => exact Json.Members.insert_of_lt h

/-- A setting whose key sorts above every key of a first run of members goes after it. -/
theorem putSome_append_of_lt {α : Type} (key : String) (f : α → Json) (o : Option α)
    {l₁ l₂ : Json.Members} (h : ∀ q ∈ l₁, q.1 < key) :
    putSome key f o (l₁ ++ l₂) = l₁ ++ putSome key f o l₂ := by
  cases o with
  | none => rfl
  | some a => exact Json.Members.insert_append_of_lt h

/-- The body of a draft across variants: its settings that are set, each by itself, in key order
around the fields. -/
theorem body_eq {d : RequestDraft} (hkind : d.kind = .variants) (fields : Json) :
    Json.Members.insert "fields" fields d.settings =
      setting "analyzer" .string d.analyzer ++ (setting "boost" widened d.boost ++
        (("fields", fields) :: (setting "params" .object d.params ++
        (setting "script" .string d.script ++ (setting "tie_breaker" widened d.tieBreaker ++
        (setting "use_dis_max" .bool d.useDisMax ++ setting "value" .string d.value)))))) := by
  simp only [settings, hkind]
  -- Each member passes the members whose keys sort below its own and goes before the rest.
  simp (disch := simp only [List.forall_mem_append, forall_mem_setting, String.reduceLT,
      implies_true, and_self]) only [putSome_nil, putSome_append_of_lt, putSome_of_lt,
    Json.Members.insert_append_of_lt, Json.Members.insert_of_lt]

/-! ### Reading the body back -/

/-- Reading keys in two runs: the second run starts from the body the first one read. -/
theorem readKeys_append (kind : QueryKind) {b b' : QueryBody} {l₁ : Json.Members}
    (h : QueryBody.readKeys kind b l₁ = .ok b') (l₂ : Json.Members) :
    QueryBody.readKeys kind b (l₁ ++ l₂) = QueryBody.readKeys kind b' l₂ := by
  induction l₁ generalizing b with
  | nil =>
    cases h
    rfl
  | cons q rest ih =>
    obtain ⟨key, value⟩ := q
    cases hk : QueryBody.readKey kind b key value with
    | error e =>
      simp only [QueryBody.readKeys, hk] at h
      cases h
    | ok b₁ =>
      simp only [QueryBody.readKeys, hk] at h
      rw [List.cons_append]
      simp only [QueryBody.readKeys, hk]
      exact ih h

/-- A setting is read into its own part of the body, which it leaves as it was when unset. -/
theorem readKeys_setting {α : Type} (b : QueryBody) (key : String) (f : α → Json) (o : Option α)
    (update : QueryBody → Option α → QueryBody) (hnone : update b none = b)
    (hsome : ∀ a ∈ o, QueryBody.readKey .variants b key (f a) = .ok (update b (some a))) :
    QueryBody.readKeys .variants b (setting key f o) = .ok (update b o) := by
  cases o with
  | none =>
    rw [hnone]
    rfl
  | some a =>
    show (QueryBody.readKey .variants b key (f a) >>= fun b' =>
      QueryBody.readKeys .variants b' []) = _
    rw [hsome a rfl]
    rfl

/-- A field list that reads sets the fields of the body. -/
theorem readKey_fields (b : QueryBody) {fields : Json} {fs : FieldWeights}
    (h : FieldWeights.ofJson fields = .ok fs) :
    QueryBody.readKey .variants b "fields" fields = .ok { b with fields := some fs } := by
  simp only [QueryBody.readKey, h]
  rfl

/-- The fields member alone sets the fields of the body. -/
theorem readKeys_fields (b : QueryBody) {fields : Json} {fs : FieldWeights}
    (h : FieldWeights.ofJson fields = .ok fs) :
    QueryBody.readKeys .variants b [("fields", fields)] = .ok { b with fields := some fs } := by
  show (QueryBody.readKey .variants b "fields" fields >>= fun b' =>
    QueryBody.readKeys .variants b' []) = _
  rw [readKey_fields b h]
  rfl

/-- A finite weight written widened reads back as the weight. -/
theorem readKey_boost (b : QueryBody) {w : Float32} (hw : w.isFinite = true) :
    QueryBody.readKey .variants b "boost" (widened w) = .ok { b with boost := w } := by
  simp only [QueryBody.readKey, QueryBody.numberOf_widened _ _ hw]
  rfl

/-- A finite tie breaker written widened reads back as the tie breaker. -/
theorem readKey_tieBreaker (b : QueryBody) {tb : Float32} (htb : tb.isFinite = true) :
    QueryBody.readKey .variants b "tie_breaker" (widened tb) = .ok { b with tieBreaker := tb } := by
  simp only [QueryBody.readKey, QueryBody.readVariantsKey, QueryBody.numberOf_widened _ _ htb]
  rfl

/-- The body read back: every key sets its own part, the unset ones keep their defaults. -/
theorem readBody_settings {d : RequestDraft} (hkind : d.kind = .variants) {fields : Json}
    {fs : FieldWeights} (hfields : FieldWeights.ofJson fields = .ok fs)
    (hboost : ∀ w ∈ d.boost, w.isFinite = true) (htb : ∀ tb ∈ d.tieBreaker, tb.isFinite = true) :
    RequestReader.readBody .variants (.object (Json.Members.insert "fields" fields d.settings)) =
      .ok ⟨some fs, d.value, d.analyzer, d.boost.getD 1, d.script, d.params.getD [],
        d.useDisMax.getD false, d.tieBreaker.getD 0⟩ := by
  rw [RequestReader.readBody, body_eq hkind]
  rw [readKeys_append .variants (readKeys_setting _ "analyzer" .string d.analyzer
      (fun b o => { b with analyzer := o.or b.analyzer }) rfl fun _ _ => rfl),
    readKeys_append .variants (readKeys_setting _ "boost" widened d.boost
      (fun b o => { b with boost := o.getD b.boost }) rfl
      fun w hw => readKey_boost _ (hboost w hw)),
    ← List.singleton_append,
    readKeys_append .variants (readKeys_fields _ hfields),
    readKeys_append .variants (readKeys_setting _ "params" .object d.params
      (fun b o => { b with params := o.getD b.params }) rfl fun _ _ => rfl),
    readKeys_append .variants (readKeys_setting _ "script" .string d.script
      (fun b o => { b with script := o.or b.script }) rfl fun _ _ => rfl),
    readKeys_append .variants (readKeys_setting _ "tie_breaker" widened d.tieBreaker
      (fun b o => { b with tieBreaker := o.getD b.tieBreaker }) rfl
      fun tb h => readKey_tieBreaker _ (htb tb h)),
    readKeys_append .variants (readKeys_setting _ "use_dis_max" .bool d.useDisMax
      (fun b o => { b with useDisMax := o.getD b.useDisMax }) rfl fun _ _ => rfl),
    readKeys_setting _ "value" .string d.value
      (fun b o => { b with value := o.or b.value }) rfl fun _ _ => rfl]
  simp only [Option.or_none]

/-! ### The round trip -/

/-- A draft whose fields render builds the object of its kind, with the fields among its settings.
-/
theorem build_eq_ok {d : RequestDraft} {fields : Json} (h : d.fields.toJson d.kind = .ok fields) :
    d.build =
      .ok (.object [(d.kind.name, .object (Json.Members.insert "fields" fields d.settings))]) := by
  simp only [build, h]
  rfl

/-- The mode a body asks for: the soft disjunction exactly when `use_dis_max` was set to true. -/
theorem ite_getD_useDisMax (o : Option Bool) (x y : CombineMode) :
    (if o.getD false = true then x else y) = if o = some true then x else y := by
  cases o with
  | none => rfl
  | some b => cases b <;> rfl

/-- What a draft across variants needs to be read back as the query it describes: what the
reader checks, and what its writing cannot carry. -/
structure VariantsReady (d : RequestDraft) : Prop where
  /-- Its fields can be written and read back. -/
  fields : d.fields.Writable
  /-- It has a text. -/
  value : d.value.isSome = true
  /-- The analyzer it names, if any, is registered. -/
  analyzer : ∀ n ∈ d.analyzer, n ∈ AnalyzerRegistry.defaults.names
  /-- The provider it names, if any, accepts its parameters. -/
  provider : ProviderRegistry.ProvidedBy d.script (d.params.getD [])
  /-- Its weight, if any, is a finite non-negative number. -/
  boost : ∀ w ∈ d.boost, w.isFinite = true ∧ 0 ≤ w
  /-- Its tie breaker, if any, lies in `[0, 1]`. -/
  tieBreaker : ∀ tb ∈ d.tieBreaker, 0 ≤ tb ∧ tb ≤ 1

/-- The checks common to both kinds pass on a body with fields, a value and a known analyzer. -/
theorem common_eq_ok (b : QueryBody) {fs : FieldWeights} {v : String} (hfields : b.fields = some fs)
    (hne : fs.entries ≠ []) (hvalue : b.value = some v)
    (hanalyzer : ∀ n ∈ b.analyzer, n ∈ AnalyzerRegistry.defaults.names) :
    ∃ a, RequestReader.defaults.common .variants b = .ok (fs, v, a) ∧
      a.name = b.analyzer.getD "standard" := by
  have hempty : fs.isEmpty = false := List.isEmpty_eq_false_iff.2 hne
  cases hb : b.analyzer with
  | none =>
    obtain ⟨a, ha, hname⟩ := AnalyzerRegistry.defaultAnalyzer_defaults
    refine ⟨a, ?_, hname⟩
    simp only [RequestReader.common, hfields, hvalue, hb, Option.getD_some, hempty]
    rw [show RequestReader.defaults.analyzers = AnalyzerRegistry.defaults from rfl, ha]
    rfl
  | some n =>
    obtain ⟨a, ha, hname⟩ := AnalyzerRegistry.get_defaults (hanalyzer n hb)
    refine ⟨a, ?_, hname⟩
    simp only [RequestReader.common, hfields, hvalue, hb, Option.getD_some, hempty]
    rw [show RequestReader.defaults.analyzers = AnalyzerRegistry.defaults from rfl, ha]
    rfl

/-- A tie breaker given in `[0, 1]`, or none, reads as one in `[0, 1]`. -/
theorem getD_tieBreaker {o : Option Float32} (h : ∀ tb ∈ o, 0 ≤ tb ∧ tb ≤ 1) :
    0 ≤ o.getD 0 ∧ o.getD 0 ≤ 1 := by
  cases o with
  | none => decide
  | some tb => exact h tb rfl

/-- A finite non-negative weight given, or none, reads as a finite non-negative weight. -/
theorem getD_boost {o : Option Float32} (h : ∀ w ∈ o, w.isFinite = true ∧ 0 ≤ w) :
    (o.getD 1).isFinite = true ∧ 0 ≤ o.getD 1 := by
  cases o with
  | none => decide
  | some w => exact h w rfl

/-- A draft across variants reached by the builder's calls, with what the reader checks, is
written and read back by the default reader as the query it describes. -/
theorem read_build_variants {d : RequestDraft} (hd : Reachable .variants d) (h : VariantsReady d) :
    ∃ j q, d.build = .ok j ∧ RequestReader.defaults.read j = .ok (.variants q) ∧
      d.value = some q.text ∧ q.analyzer.name = d.analyzer.getD "standard" ∧
      d.fields.ReadsAs q.fields ∧ q.boost = d.boost.getD 1 ∧
      q.mode = (if d.useDisMax = some true then .disMax (d.tieBreaker.getD 0) else .andOr) ∧
      q.provider.name = d.script.getD "term" := by
  have hkind := hd.kind_eq
  obtain ⟨fields, fs, hjson, hfs, hreads⟩ := FieldList.read_toJson .variants hd.wellformed h.fields
  obtain ⟨v, hv⟩ := Option.isSome_iff_exists.1 h.value
  -- The body is read back key by key.
  let body : QueryBody := ⟨some fs, d.value, d.analyzer, d.boost.getD 1, d.script,
    d.params.getD [], d.useDisMax.getD false, d.tieBreaker.getD 0⟩
  have hbody : RequestReader.readBody .variants
      (.object (Json.Members.insert "fields" fields d.settings)) = .ok body :=
    readBody_settings hkind hfs (fun w hw => (h.boost w hw).1)
      fun tb htb => Weight.isFinite_of_mem_unit (h.tieBreaker tb htb).1 (h.tieBreaker tb htb).2
  have hne := hreads.entries_ne_nil h.fields.nonempty
  obtain ⟨a, hcommon, hname⟩ := common_eq_ok body rfl hne hv h.analyzer
  have hmode : body.config.combineMode =
      .ok (if d.useDisMax = some true then .disMax (d.tieBreaker.getD 0) else .andOr) := by
    rw [CompilerConfig.combineMode_eq body.config (getD_tieBreaker h.tieBreaker)
      (getD_boost h.boost)]
    exact congrArg Except.ok (ite_getD_useDisMax d.useDisMax _ _)
  have hbuild := build_eq_ok (hkind ▸ hjson)
  rw [hkind] at hbuild
  -- The provider named, `term` when none is.
  obtain ⟨p, hcreate, hterm, hpname⟩ : ∃ p : Provider,
      (∀ s, d.script = some s →
        RequestReader.defaults.providers.create s (d.params.getD []) = .ok p) ∧
      (d.script = none → p = .term) ∧ p.name = d.script.getD "term" := by
    cases hs : d.script with
    | none => exact ⟨.term, fun _ h => (by cases h), fun _ => rfl, rfl⟩
    | some s =>
      obtain ⟨p, hp, hn⟩ := ProviderRegistry.create_defaults (hs ▸ h.provider)
      exact ⟨p, fun s' h' => Option.some.inj h' ▸ hp, fun h' => (by cases h'), hn⟩
  refine ⟨_, ⟨fs, a, v, p,
    if d.useDisMax = some true then .disMax (d.tieBreaker.getD 0) else .andOr, d.boost.getD 1,
    SpanTree.build (VariantsQuery.termsOf a v)⟩, hbuild, ?_, hv, hname, hreads, rfl, rfl, hpname⟩
  have hkindName : QueryKind.ofName? "across_variants" = some .variants := rfl
  simp only [RequestReader.read, QueryKind.name, hkindName, RequestReader.readKind,
    RequestReader.readVariants, hbody, hcommon, VariantsQuery.new_eq_ok a v hne, hmode, bind,
    Except.bind, pure, Except.pure]
  cases hs : d.script with
  | none => simp only [body, hs, hterm hs]
  | some s => simp only [body, hs, hcreate s hs]

/-- A field of weight one and a weighted field, the `simple` analyzer, a template provider and
the soft disjunction. -/
theorem read_build_variants_template :
    let d : RequestDraft := (RequestDraft.new .variants).addField "title"
      |>.addWeightedField "body" 2 |>.withValue "wifi router" |>.withAnalyzer "simple"
      |>.withScript "template" |>.withParams [("template", .string "exact")]
      |>.withDisMax true |>.withTieBreaker 0.5
    Reachable .variants d ∧ VariantsReady d ∧
      ∃ j q, d.build = .ok j ∧ RequestReader.defaults.read j = .ok (.variants q) ∧
        d.value = some q.text ∧ q.analyzer.name = d.analyzer.getD "standard" ∧
        d.fields.ReadsAs q.fields ∧ q.boost = d.boost.getD 1 ∧
        q.mode = (if d.useDisMax = some true then .disMax (d.tieBreaker.getD 0) else .andOr) ∧
        q.provider.name = d.script.getD "term" := by
  intro d
  have hd : Reachable .variants d :=
    .withTieBreaker _ _ <| .withDisMax _ _ <| .withParams _ _ <| .withScript _ _ <|
      .withAnalyzer _ _ <| .withValue _ _ <| .addWeightedField _ _ _ <| .addField _ _ .new
  have hfields : d.fields.Writable :=
    ⟨List.cons_ne_nil _ _, by decide, by decide, by decide⟩
  have hprovider : ProviderRegistry.ProvidedBy d.script (d.params.getD []) :=
    .inr (.inr ⟨rfl, ⟨"exact", rfl⟩, fun j hj => nomatch hj⟩)
  have h : VariantsReady d :=
    ⟨hfields, rfl, by rintro n ⟨⟩; decide, hprovider, nofun, by rintro tb ⟨⟩; decide⟩
  exact ⟨hd, h, read_build_variants hd h⟩

end RequestDraft

end ConceptQuery
