import ConceptQuery.Proofs.Compile.Shape
import ConceptQuery.Proofs.Request.Body

/-!
# The checks after a body's members

Once the members of a body are read, the reader checks what every query needs of the body they
describe (`QueryBody.Complete`: a field, a value, an analyzer the default registry has if one is
named), and for a query across variants its settings (`QueryBody.SettingsValid`: a tie breaker in
`[0, 1]` whatever the mode asked for, a finite weight not below zero, a provider that the default
registry makes from the parameters). It reports the first check that fails, with its own error
(`QueryBody.Incomplete`, `QueryBody.SettingsRefused`).

* The common checks fail exactly with the error of the first thing a body lacks
  (`QueryBody.common_eq_error_iff`) and pass exactly on a complete body
  (`QueryBody.common_eq_ok_iff`).
* The combine mode fails on the tie breaker first, then on the weight
  (`CompilerConfig.combineMode_eq_error_iff`); the default providers are `term` and `template`
  with template parameters (`ProviderRegistry.create_defaults_eq_ok_iff`).
* Together: reading a body across variants fails exactly with the first failing check's error
  and succeeds exactly on a complete body with valid settings
  (`QueryBody.readVariants_eq_error_iff`, `QueryBody.readVariants_eq_ok_iff`); a body across
  fields has no settings to check
  (`QueryBody.readFields_eq_error_iff`, `QueryBody.readFields_eq_ok_iff`). Either query takes the
  body's value as its text.

Singles compare by IEEE rules: a weight that is not below zero is at least zero only when it is
finite (`Weight.not_lt_zero_iff`).
-/

namespace ConceptQuery

/-- A computation succeeds exactly when it fails with no error. -/
theorem exists_eq_ok_iff {ε α : Type} {x : Except ε α} :
    (∃ a, x = .ok a) ↔ ∀ e, x ≠ .error e := by
  cases x <;> simp

namespace Weight

open Float.Model

/-- A finite weight that is not below zero is at least zero: only NaN is neither. -/
theorem nonneg_of_not_lt_zero {w : Float32} (hf : w.isFinite = true) (h : ¬w < 0) : 0 ≤ w := by
  have hfin : w.toModel.unpack.isFinite = true := hf
  have hnlt : ¬UnpackedFloat.lt w.toModel.unpack (0 : Float32).toModel.unpack = true :=
    fun hlt => h (decide_eq_true hlt)
  refine decide_eq_true (?_ : UnpackedFloat.le (0 : Float32).toModel.unpack w.toModel.unpack = true)
  rw [unpack_zero] at hnlt ⊢
  generalize w.toModel.unpack = u at *
  -- A finite value not below zero is a zero or a positive value.
  cases u with
  | notANumber => simp [UnpackedFloat.isFinite] at hfin
  | infinity s => simp [UnpackedFloat.isFinite] at hfin
  | zero s => cases s <;> simp [UnpackedFloat.le, UnpackedFloat.compare]
  | finite s m e hm =>
    cases s <;> simp_all [UnpackedFloat.le, UnpackedFloat.lt, UnpackedFloat.compare]

/-- For a finite weight, not being below zero is being at least zero. -/
theorem not_lt_zero_iff {w : Float32} (hf : w.isFinite = true) : ¬w < 0 ↔ 0 ≤ w :=
  ⟨nonneg_of_not_lt_zero hf, not_lt_zero_of_nonneg⟩

end Weight

/-! ### The registries -/

namespace AnalyzerRegistry

/-- Looking up an analyzer fails exactly for a name the registry does not have. -/
theorem get_eq_error_iff (r : AnalyzerRegistry) (n : String) (e : Error) :
    r.get n = .error e ↔ n ∉ r.names ∧ e = .analysis ("Unknown analyzer [" ++ n ++ "]") := by
  unfold get names
  cases h : r.entries.find? (·.1 == n) with
  | none =>
    have hn : n ∉ r.entries.map Prod.fst := by
      intro hn
      obtain ⟨p, hp, rfl⟩ := List.mem_map.1 hn
      exact absurd (beq_self_eq_true p.1) (List.find?_eq_none.1 h p hp)
    simp [hn, eq_comm]
  | some p =>
    have hn : n ∈ r.entries.map Prod.fst :=
      List.mem_map.2 ⟨p, List.mem_of_find?_eq_some h, by simpa using List.find?_some h⟩
    simp [hn]

end AnalyzerRegistry

namespace Provider

/-- A template provider is made exactly from template parameters. -/
theorem templateParams_of_ofTemplateParams {ps : Json.Members} {p : Provider}
    (h : ofTemplateParams ps = .ok p) : TemplateParams ps := by
  unfold ofTemplateParams at h
  -- The match on the field comes apart first, then the one on the template.
  split at h
  · rename_i f hfield
    split at h
    · rename_i t htemplate
      exact ⟨⟨t, htemplate⟩, fun j hj => ⟨f, Option.some.inj (hj.symm.trans hfield)⟩⟩
    · cases h
    · cases h
  · split at h <;> cases h
  · rename_i hfield
    split at h
    · rename_i t htemplate
      exact ⟨⟨t, htemplate⟩, fun j hj => by cases hj.symm.trans hfield⟩
    · cases h
    · cases h

end Provider

namespace ProviderRegistry

/-- The default registry makes a provider of a name from parameters exactly when the name is
`term`, or `template` with template parameters. -/
theorem create_defaults_eq_ok_iff {s : String} {ps : Json.Members} :
    (∃ p, defaults.create s ps = .ok p) ↔ ProvidedBy (some s) ps := by
  constructor
  · rintro ⟨p, hp⟩
    by_cases hterm : s = "term"
    · exact .inr (.inl (congrArg some hterm))
    · by_cases htemplate : s = "template"
      · subst htemplate
        exact .inr (.inr ⟨rfl, Provider.templateParams_of_ofTemplateParams hp⟩)
      · have hnames : defaults.names = ["template", "term"] := rfl
        have hn : s ∉ defaults.names := by
          rw [hnames]
          simp [hterm, htemplate]
        have hnone : defaults.factories.find? (·.1 == s) = none :=
          List.find?_eq_none.2 fun q hq heq =>
            hn (List.mem_map.2 ⟨q, hq, by simpa using heq⟩)
        simp [create, hnone] at hp
  · intro h
    obtain ⟨p, hp, -⟩ := create_defaults h
    exact ⟨p, hp⟩

end ProviderRegistry

namespace CompilerConfig

/-- The weight check: a finite weight not below zero. -/
theorem boost_check_iff (w : Float32) :
    (w.isFinite && !decide (w < 0)) = true ↔ w.isFinite = true ∧ 0 ≤ w := by
  simp only [Bool.and_eq_true, Bool.not_eq_true', decide_eq_false_iff_not]
  exact and_congr_right Weight.not_lt_zero_iff

/-- A tie breaker outside `[0, 1]` is refused with its value in the message. -/
theorem checkTieBreaker_eq_error {tb : Float32} (h : ¬(0 ≤ tb ∧ tb ≤ 1)) :
    checkTieBreaker tb =
      .error (.configuration ("tie_breaker must be within [0, 1], got " ++ weightText tb)) := by
  rw [checkTieBreaker, if_neg (by simpa using h)]

/-- The combine mode fails on a tie breaker outside `[0, 1]`, whatever the mode asked for, and
then on a weight that is not finite or is below zero, each with its message. -/
theorem combineMode_eq_error_iff (c : CompilerConfig) (e : Error) :
    c.combineMode = .error e ↔
      (¬(0 ≤ c.tieBreaker ∧ c.tieBreaker ≤ 1) ∧
          e = .configuration ("tie_breaker must be within [0, 1], got " ++
            weightText c.tieBreaker)) ∨
        ((0 ≤ c.tieBreaker ∧ c.tieBreaker ≤ 1) ∧ ¬(c.boost.isFinite = true ∧ 0 ≤ c.boost) ∧
          e = .configuration ("boost must be a non-negative number, got " ++
            weightText c.boost)) := by
  by_cases htb : 0 ≤ c.tieBreaker ∧ c.tieBreaker ≤ 1
  · by_cases hb : c.boost.isFinite = true ∧ 0 ≤ c.boost
    · rw [combineMode_eq c htb hb]
      simp [htb, hb]
    · have hbad : (c.boost.isFinite && !decide (c.boost < 0)) = false := by
        rw [← Bool.not_eq_true, boost_check_iff]
        exact hb
      have hvalid : c.validate = .error (.configuration
          ("boost must be a non-negative number, got " ++ weightText c.boost)) := by
        simp only [validate, checkTieBreaker_eq_ok htb, hbad]
        rfl
      simp only [combineMode, hvalid]
      constructor
      · rintro ⟨⟩
        exact .inr ⟨htb, hb, rfl⟩
      · rintro (⟨h, -⟩ | ⟨-, -, rfl⟩)
        · exact absurd htb h
        · rfl
  · have hvalid : c.validate = .error (.configuration
        ("tie_breaker must be within [0, 1], got " ++ weightText c.tieBreaker)) := by
      simp only [validate, checkTieBreaker_eq_error htb]
      rfl
    simp only [combineMode, hvalid]
    constructor
    · rintro ⟨⟩
      exact .inl ⟨htb, rfl⟩
    · rintro (⟨-, rfl⟩ | ⟨h, -⟩)
      · rfl
      · exact absurd h htb

end CompilerConfig

/-! ### The checks after the members -/

namespace QueryBody

/-- A body names at least one field. -/
def HasFields (b : QueryBody) : Prop := ∃ fs, b.fields = some fs ∧ fs.entries ≠ []

/-- What every query needs of its body: at least one field, a value, and, if it names an
analyzer, one the default registry has. -/
structure Complete (b : QueryBody) : Prop where
  /-- The body has fields. -/
  fields : b.HasFields
  /-- It has a text. -/
  value : b.value.isSome = true
  /-- The analyzer it names, if any, is registered. -/
  analyzer : ∀ n ∈ b.analyzer, n ∈ AnalyzerRegistry.defaults.names

/-- The first of those that a body lacks, with the error reading it reports. -/
@[mk_iff]
inductive Incomplete (kind : QueryKind) (b : QueryBody) : Error → Prop
  /-- No fields. -/
  | noFields : ¬b.HasFields →
      Incomplete kind b (.configuration ("[" ++ kind.name ++ "] no fields given"))
  /-- Fields, but no text. -/
  | noValue : b.HasFields → b.value = none →
      Incomplete kind b (.query ("No value specified for [" ++ kind.name ++ "] query"))
  /-- Fields and a text, but an analyzer that is not registered. -/
  | unknownAnalyzer {n : String} : b.HasFields → b.value.isSome = true → b.analyzer = some n →
      n ∉ AnalyzerRegistry.defaults.names →
      Incomplete kind b (.analysis ("Unknown analyzer [" ++ n ++ "]"))

/-- The settings a query across variants checks: a tie breaker in `[0, 1]`, whether or not the
soft disjunction is asked for; a finite weight not below zero; and a provider that the default
registry makes from the parameters. -/
structure SettingsValid (b : QueryBody) : Prop where
  /-- The tie breaker lies in `[0, 1]`. -/
  tieBreaker : 0 ≤ b.tieBreaker ∧ b.tieBreaker ≤ 1
  /-- The weight is a finite non-negative number. -/
  boost : b.boost.isFinite = true ∧ 0 ≤ b.boost
  /-- The provider named, if any, accepts the parameters. -/
  provider : ProviderRegistry.ProvidedBy b.script b.params

/-- The first of those settings that a body gets wrong, with the error reading it reports. -/
@[mk_iff]
inductive SettingsRefused (b : QueryBody) : Error → Prop
  /-- The tie breaker lies outside `[0, 1]`. -/
  | tieBreaker : ¬(0 ≤ b.tieBreaker ∧ b.tieBreaker ≤ 1) →
      SettingsRefused b
        (.configuration ("tie_breaker must be within [0, 1], got " ++ weightText b.tieBreaker))
  /-- The tie breaker is good but the weight is not. -/
  | boost : 0 ≤ b.tieBreaker ∧ b.tieBreaker ≤ 1 → ¬(b.boost.isFinite = true ∧ 0 ≤ b.boost) →
      SettingsRefused b
        (.configuration ("boost must be a non-negative number, got " ++ weightText b.boost))
  /-- The numbers are good but the named provider refuses the parameters. -/
  | provider {s : String} {e : Error} : 0 ≤ b.tieBreaker ∧ b.tieBreaker ≤ 1 →
      b.boost.isFinite = true ∧ 0 ≤ b.boost → b.script = some s →
      ProviderRegistry.defaults.create s b.params = .error e → SettingsRefused b e


variable {kind : QueryKind} {b : QueryBody}

/-- A body has fields exactly when the fields it read are not empty. -/
theorem isEmpty_getD_eq_false_iff (b : QueryBody) :
    (b.fields.getD .empty).isEmpty = false ↔ b.HasFields := by
  cases hb : b.fields with
  | none => simp [HasFields, hb, FieldWeights.isEmpty, FieldWeights.empty]
  | some fs => simp [HasFields, hb, FieldWeights.isEmpty, List.isEmpty_eq_false_iff]

/-- The default reader finds analyzers in the default registry. -/
theorem analyzers_defaults : RequestReader.defaults.analyzers = AnalyzerRegistry.defaults := rfl

/-- Each thing a body lacks makes the common checks fail with its error. -/
theorem common_of_incomplete {e : Error} (h : b.Incomplete kind e) :
    RequestReader.defaults.common kind b = .error e := by
  cases h with
  | noFields hf =>
    have hempty : (b.fields.getD .empty).isEmpty = true := by
      simpa using mt (isEmpty_getD_eq_false_iff b).1 hf
    simp only [RequestReader.common, hempty]
    rfl
  | noValue hf hv =>
    simp only [RequestReader.common, (isEmpty_getD_eq_false_iff b).2 hf, hv]
    rfl
  | @unknownAnalyzer n hf hv ha hn =>
    obtain ⟨v, hv⟩ := Option.isSome_iff_exists.1 hv
    have hg := (AnalyzerRegistry.get_eq_error_iff _ n _).2 ⟨hn, rfl⟩
    simp only [RequestReader.common, (isEmpty_getD_eq_false_iff b).2 hf, hv, ha,
      analyzers_defaults, hg]
    rfl

/-- The common checks fail only for a body that lacks something, with the error of the first
thing it lacks. -/
theorem incomplete_of_common {e : Error} (h : RequestReader.defaults.common kind b = .error e) :
    b.Incomplete kind e := by
  by_cases hf : b.HasFields
  · cases hv : b.value with
    | none =>
      rw [common_of_incomplete (.noValue hf hv)] at h
      cases h
      exact .noValue hf hv
    | some v =>
      cases ha : b.analyzer with
      | none =>
        obtain ⟨a, hda, -⟩ := AnalyzerRegistry.defaultAnalyzer_defaults
        simp only [RequestReader.common, (isEmpty_getD_eq_false_iff b).2 hf, hv, ha,
          analyzers_defaults, hda] at h
        cases h
      | some n =>
        by_cases hn : n ∈ AnalyzerRegistry.defaults.names
        · obtain ⟨a, hga, -⟩ := AnalyzerRegistry.get_defaults hn
          simp only [RequestReader.common, (isEmpty_getD_eq_false_iff b).2 hf, hv, ha,
            analyzers_defaults, hga] at h
          cases h
        · have hi : b.Incomplete kind _ := .unknownAnalyzer hf (by simp [hv]) ha hn
          rw [common_of_incomplete hi] at h
          cases h
          exact hi
  · rw [common_of_incomplete (.noFields hf)] at h
    cases h
    exact .noFields hf

/-- The common checks fail exactly when the body is incomplete, with the error of the first missing
part. -/
theorem common_eq_error_iff {e : Error} :
    RequestReader.defaults.common kind b = .error e ↔ b.Incomplete kind e :=
  ⟨incomplete_of_common, common_of_incomplete⟩

/-- A complete body lacks nothing. -/
theorem Complete.not_incomplete (hb : b.Complete) {e : Error} : ¬b.Incomplete kind e := by
  intro h
  cases h with
  | noFields hf => exact hf hb.fields
  | noValue _ hv =>
    have hsome := hb.value
    simp [hv] at hsome
  | unknownAnalyzer _ _ ha hn => exact hn (hb.analyzer _ ha)

/-- The common checks pass exactly on a complete body. -/
theorem common_eq_ok_iff :
    (∃ r, RequestReader.defaults.common kind b = .ok r) ↔ b.Complete := by
  constructor
  · rintro ⟨r, hr⟩
    -- Nothing is missing, or the checks would have failed.
    have hnot : ∀ e, ¬b.Incomplete kind e := fun e hi => by
      rw [common_of_incomplete hi] at hr
      cases hr
    have hfields : b.HasFields := Classical.byContradiction fun hf => hnot _ (.noFields hf)
    have hvalue : b.value.isSome = true := by
      cases hv : b.value with
      | none => exact (hnot _ (.noValue hfields hv)).elim
      | some v => rfl
    exact ⟨hfields, hvalue, fun n ha =>
      Classical.byContradiction fun hn => hnot _ (.unknownAnalyzer hfields hvalue ha hn)⟩
  · intro hb
    cases hc : RequestReader.defaults.common kind b with
    | error e => exact absurd (incomplete_of_common hc) hb.not_incomplete
    | ok r => exact ⟨r, rfl⟩

/-- Passing the common checks gives the body's fields, at least one, and its value. -/
theorem common_eq_ok {r : FieldWeights × String × Analyzer}
    (h : RequestReader.defaults.common kind b = .ok r) :
    b.fields = some r.1 ∧ r.1.entries ≠ [] ∧ b.value = some r.2.1 := by
  obtain ⟨⟨fs, hfs, hne⟩, hvalue, -⟩ := common_eq_ok_iff.1 ⟨r, h⟩
  obtain ⟨v, hv⟩ := Option.isSome_iff_exists.1 hvalue
  have hempty : fs.isEmpty = false := List.isEmpty_eq_false_iff.2 hne
  simp only [RequestReader.common, hfs, Option.getD_some, hempty, hv, Bool.false_eq_true,
    if_false] at h
  -- Whichever analyzer is looked up, the result carries the fields and the value.
  split at h
  all_goals
    obtain ⟨a, -, hr⟩ := bind_eq_ok.1 h
    cases hr
    exact ⟨hfs, hne, hv⟩

/-! ### Reading a body after its members -/

/-- The settings of a body carry its tie breaker. -/
@[simp] theorem config_tieBreaker (b : QueryBody) : b.config.tieBreaker = b.tieBreaker := rfl

/-- The settings of a body carry its weight. -/
@[simp] theorem config_boost (b : QueryBody) : b.config.boost = b.boost := rfl

/-- The default reader finds providers in the default registry. -/
theorem providers_defaults : RequestReader.defaults.providers = ProviderRegistry.defaults := rfl

/-- The settings are checked when the combine mode passes: its checks are the first two. -/
theorem settings_of_combineMode {mode : CombineMode} (h : b.config.combineMode = .ok mode) :
    (0 ≤ b.tieBreaker ∧ b.tieBreaker ≤ 1) ∧ (b.boost.isFinite = true ∧ 0 ≤ b.boost) := by
  by_cases htb : 0 ≤ b.tieBreaker ∧ b.tieBreaker ≤ 1
  · refine ⟨htb, Classical.byContradiction fun hbst => ?_⟩
    have := (CompilerConfig.combineMode_eq_error_iff b.config _).2 (.inr ⟨htb, hbst, rfl⟩)
    rw [h] at this
    cases this
  · have := (CompilerConfig.combineMode_eq_error_iff b.config _).2 (.inl ⟨htb, rfl⟩)
    rw [h] at this
    cases this

/-- A tie breaker outside `[0, 1]` is the refusal of the settings. -/
theorem settingsRefused_of_tieBreaker (htb : ¬(0 ≤ b.tieBreaker ∧ b.tieBreaker ≤ 1))
    {e : Error} :
    b.SettingsRefused e ↔
      e = .configuration
        ("tie_breaker must be within [0, 1], got " ++ weightText b.tieBreaker) := by
  simp [settingsRefused_iff, htb]

/-- With a good tie breaker, a weight that is not a finite non-negative number is the refusal. -/
theorem settingsRefused_of_boost (htb : 0 ≤ b.tieBreaker ∧ b.tieBreaker ≤ 1)
    (hbst : ¬(b.boost.isFinite = true ∧ 0 ≤ b.boost)) {e : Error} :
    b.SettingsRefused e ↔
      e = .configuration ("boost must be a non-negative number, got " ++ weightText b.boost) := by
  simp [settingsRefused_iff, htb, hbst]

/-- With good numbers, the settings are refused only by the named provider's factory. -/
theorem settingsRefused_of_provider (htb : 0 ≤ b.tieBreaker ∧ b.tieBreaker ≤ 1)
    (hbst : b.boost.isFinite = true ∧ 0 ≤ b.boost) {e : Error} :
    b.SettingsRefused e ↔
      ∃ s, b.script = some s ∧ ProviderRegistry.defaults.create s b.params = .error e := by
  simp [settingsRefused_iff, htb, hbst]

/-- A query across variants fails when its body is incomplete, or complete with refused settings. -/
theorem readVariants_eq_error_iff (hb : RequestReader.readBody .variants body = .ok b) {e : Error} :
    RequestReader.defaults.readVariants body = .error e ↔
      b.Incomplete .variants e ∨ (b.Complete ∧ b.SettingsRefused e) := by
  cases hc : RequestReader.defaults.common .variants b with
  | error e' =>
    -- The common checks fail first.
    have hnc : ¬b.Complete := fun h => h.not_incomplete (incomplete_of_common hc)
    rw [← common_eq_error_iff, hc]
    simp only [RequestReader.readVariants, hb, hc, hnc, false_and, or_false, bind, Except.bind,
      Except.error.injEq]
  | ok r =>
    obtain ⟨fs, v, a⟩ := r
    obtain ⟨-, hne, -⟩ := common_eq_ok hc
    have hcomplete : b.Complete := common_eq_ok_iff.1 ⟨_, hc⟩
    have hempty : fs.isEmpty = false := List.isEmpty_eq_false_iff.2 hne
    rw [← common_eq_error_iff, hc]
    simp only [RequestReader.readVariants, hb, hc, VariantsQuery.new, hempty, Bool.false_eq_true,
      if_false, hcomplete, true_and, reduceCtorEq, false_or, bind, Except.bind]
    cases hm : b.config.combineMode with
    | error e' =>
      -- The tie breaker, then the weight.
      have hm' := (CompilerConfig.combineMode_eq_error_iff _ e').1 hm
      rw [Except.error.injEq, eq_comm]
      rcases hm' with ⟨htb, rfl⟩ | ⟨htb, hbst, rfl⟩
      · exact (settingsRefused_of_tieBreaker htb).symm
      · exact (settingsRefused_of_boost htb hbst).symm
    | ok mode =>
      obtain ⟨htb, hbst⟩ := settings_of_combineMode hm
      rw [settingsRefused_of_provider htb hbst]
      cases hs : b.script with
      | none => simp [pure, Except.pure]
      | some s =>
        dsimp only
        rw [providers_defaults]
        cases hp : ProviderRegistry.defaults.create s b.params with
        | error e' => simp [hp]
        | ok p => simp [hp, pure, Except.pure]

/-- A body that is not complete is incomplete with some error. -/
theorem exists_incomplete_of_not_complete {kind : QueryKind} (h : ¬b.Complete) :
    ∃ e, b.Incomplete kind e := by
  cases hc : RequestReader.defaults.common kind b with
  | error e => exact ⟨e, incomplete_of_common hc⟩
  | ok r => exact absurd (common_eq_ok_iff.1 ⟨r, hc⟩) h

/-- The settings are valid exactly when none of them is refused. -/
theorem settingsValid_iff : b.SettingsValid ↔ ∀ e, ¬b.SettingsRefused e := by
  constructor
  · intro hv e hr
    cases hr with
    | tieBreaker h => exact h hv.tieBreaker
    | boost _ h => exact h hv.boost
    | provider _ _ hs hp =>
      obtain ⟨p, hp'⟩ := ProviderRegistry.create_defaults_eq_ok_iff.2 (hs ▸ hv.provider)
      rw [hp] at hp'
      cases hp'
  · intro h
    have htb : 0 ≤ b.tieBreaker ∧ b.tieBreaker ≤ 1 :=
      Classical.byContradiction fun htb => h _ (.tieBreaker htb)
    have hbst : b.boost.isFinite = true ∧ 0 ≤ b.boost :=
      Classical.byContradiction fun hbst => h _ (.boost htb hbst)
    refine ⟨htb, hbst, ?_⟩
    cases hs : b.script with
    | none => exact .inl rfl
    | some s =>
      cases hp : ProviderRegistry.defaults.create s b.params with
      | error e => exact absurd (.provider htb hbst hs hp) (h e)
      | ok p => exact ProviderRegistry.create_defaults_eq_ok_iff.1 ⟨p, hp⟩

/-- Reading a body across variants succeeds exactly when the body is complete and its settings
are valid. -/
theorem readVariants_eq_ok_iff (hb : RequestReader.readBody .variants body = .ok b) :
    (∃ q, RequestReader.defaults.readVariants body = .ok q) ↔ b.Complete ∧ b.SettingsValid := by
  rw [exists_eq_ok_iff, settingsValid_iff]
  simp only [ne_eq, readVariants_eq_error_iff hb, not_or, not_and]
  constructor
  · intro h
    have hc : b.Complete := Classical.byContradiction fun hc =>
      let ⟨e, he⟩ := exists_incomplete_of_not_complete hc
      (h e).1 he
    exact ⟨hc, fun e => (h e).2 hc⟩
  · rintro ⟨hc, hs⟩ e
    exact ⟨hc.not_incomplete, fun _ => hs e⟩

/-- The query read across variants takes the body's value as its text. -/
theorem value_of_readVariants (hb : RequestReader.readBody .variants body = .ok b)
    {q : VariantsQuery} (h : RequestReader.defaults.readVariants body = .ok q) :
    b.value = some q.text := by
  cases hc : RequestReader.defaults.common .variants b with
  | error e =>
    simp only [RequestReader.readVariants, hb, hc, bind, Except.bind] at h
    cases h
  | ok r =>
    obtain ⟨fs, v, a⟩ := r
    obtain ⟨-, hne, hv⟩ := common_eq_ok hc
    have hempty : fs.isEmpty = false := List.isEmpty_eq_false_iff.2 hne
    simp only [RequestReader.readVariants, hb, hc, VariantsQuery.new, hempty, Bool.false_eq_true,
      if_false, bind, Except.bind] at h
    -- Every way to succeed keeps the text of the query made from the value.
    split at h
    · cases h
    · split at h
      · split at h
        · cases h
        · cases h
          exact hv
      · cases h
        exact hv

/-- Reading a body across fields fails exactly when the body lacks something, with the error of
the first thing it lacks. -/
theorem readFields_eq_error_iff (hb : RequestReader.readBody .fields body = .ok b) {e : Error} :
    RequestReader.defaults.readFields body = .error e ↔ b.Incomplete .fields e := by
  rw [← common_eq_error_iff]
  cases hc : RequestReader.defaults.common .fields b with
  | error e' =>
    simp only [RequestReader.readFields, hb, hc, bind, Except.bind, Except.error.injEq]
  | ok r =>
    obtain ⟨fs, v, a⟩ := r
    obtain ⟨-, hne, -⟩ := common_eq_ok hc
    have hempty : fs.isEmpty = false := List.isEmpty_eq_false_iff.2 hne
    simp [RequestReader.readFields, hb, hc, FieldsQuery.new, hempty, bind, Except.bind, pure,
      Except.pure]

/-- Reading a body across fields succeeds exactly when the body is complete. -/
theorem readFields_eq_ok_iff (hb : RequestReader.readBody .fields body = .ok b) :
    (∃ q, RequestReader.defaults.readFields body = .ok q) ↔ b.Complete := by
  rw [exists_eq_ok_iff]
  simp only [ne_eq, readFields_eq_error_iff hb]
  exact ⟨fun h => Classical.byContradiction fun hc =>
      let ⟨e, he⟩ := exists_incomplete_of_not_complete hc
      h e he,
    fun hc e => hc.not_incomplete⟩

/-- The query read across fields takes the body's value as its text. -/
theorem value_of_readFields (hb : RequestReader.readBody .fields body = .ok b)
    {q : FieldsQuery} (h : RequestReader.defaults.readFields body = .ok q) :
    b.value = some q.text := by
  cases hc : RequestReader.defaults.common .fields b with
  | error e =>
    simp only [RequestReader.readFields, hb, hc, bind, Except.bind] at h
    cases h
  | ok r =>
    obtain ⟨fs, v, a⟩ := r
    obtain ⟨-, hne, hv⟩ := common_eq_ok hc
    have hempty : fs.isEmpty = false := List.isEmpty_eq_false_iff.2 hne
    simp only [RequestReader.readFields, hb, hc, FieldsQuery.new, hempty, Bool.false_eq_true,
      if_false, bind, Except.bind, pure, Except.pure] at h
    cases h
    exact hv

end QueryBody

end ConceptQuery
