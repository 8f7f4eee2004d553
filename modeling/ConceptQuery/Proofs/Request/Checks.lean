import ConceptQuery.Proofs.Request.FieldList

/-!
# When the reader's checks pass

After the keys of a body, reading a query across variants checks its settings: the tie breaker
must lie in `[0, 1]` and the weight must be finite and not below zero; the analyzer and the
provider are looked up by name in the reader's registries. This module says when each check
passes and what it gives:

* a valid configuration gives the mode it asks for (`CompilerConfig.combineMode_eq`);
* every name of the default analyzers finds an analyzer of that name
  (`AnalyzerRegistry.get_defaults`), the default one named `standard`;
* the default providers make `term` from any parameters and `template` from parameters that hold
  a template text (`ProviderRegistry.create_defaults`).

Singles compare by IEEE rules, so `≤` is not the negation of `>`: NaN compares false both ways.
A weight at least zero is still never below zero (`Weight.not_lt_zero_of_nonneg`), and a value
between zero and one is finite (`Weight.isFinite_of_mem_unit`).
-/

namespace ConceptQuery

namespace Weight

open Float.Model

/-- Zero, unpacked. -/
theorem unpack_zero : (0 : Float32).toModel.unpack = .zero .positive := rfl

/-- A weight at least zero is not below zero. -/
theorem not_lt_zero_of_nonneg {w : Float32} (h : 0 ≤ w) : ¬ w < 0 := by
  have hle : UnpackedFloat.le (0 : Float32).toModel.unpack w.toModel.unpack = true :=
    of_decide_eq_true h
  intro hlt
  have hlt' : UnpackedFloat.lt w.toModel.unpack (0 : Float32).toModel.unpack = true :=
    of_decide_eq_true hlt
  rw [unpack_zero] at hle hlt'
  generalize w.toModel.unpack = u at *
  -- Zero is below exactly the positive values, none of which is below zero.
  cases u with
  | notANumber => simp [UnpackedFloat.le, UnpackedFloat.compare] at hle
  | infinity s => cases s <;> simp_all [UnpackedFloat.le, UnpackedFloat.lt, UnpackedFloat.compare]
  | zero s => simp [UnpackedFloat.lt, UnpackedFloat.compare] at hlt'
  | finite s m e hm =>
    cases s <;> simp_all [UnpackedFloat.le, UnpackedFloat.lt, UnpackedFloat.compare]

/-- A value between zero and one is finite: NaN and the infinities fail one of the bounds. -/
theorem isFinite_of_mem_unit {w : Float32} (h0 : 0 ≤ w) (h1 : w ≤ 1) : w.isFinite = true := by
  have hle0 : UnpackedFloat.le (0 : Float32).toModel.unpack w.toModel.unpack = true :=
    of_decide_eq_true h0
  have hle1 : UnpackedFloat.le w.toModel.unpack (1 : Float32).toModel.unpack = true :=
    of_decide_eq_true h1
  show w.toModel.unpack.isFinite = true
  rw [unpack_zero] at hle0
  rw [unpack_one] at hle1
  generalize w.toModel.unpack = u at *
  cases u with
  | notANumber => simp [UnpackedFloat.le, UnpackedFloat.compare] at hle0
  | infinity s => cases s <;> simp_all [UnpackedFloat.le, UnpackedFloat.compare]
  | zero s => rfl
  | finite s m e hm => rfl

end Weight

/-! ### Settings -/

/-- A widened finite weight is read back as itself. -/
theorem QueryBody.numberOf_widened (kind : QueryKind) (key : String) {w : Float32}
    (hw : w.isFinite = true) : QueryBody.numberOf kind key (widened w) = .ok w := by
  rw [widened_of_isFinite hw]
  exact congrArg Except.ok (Weight.doubleToSingle_singleToDouble w)

namespace CompilerConfig

/-- A tie breaker in `[0, 1]` passes its check. -/
theorem checkTieBreaker_eq_ok {tb : Float32} (h : 0 ≤ tb ∧ tb ≤ 1) :
    checkTieBreaker tb = .ok () := by
  simp [checkTieBreaker, h.1, h.2]

/-- A tie breaker in `[0, 1]` and a finite weight not below zero pass the checks, and the mode is
the one the configuration asks for. -/
theorem combineMode_eq (c : CompilerConfig) (htb : 0 ≤ c.tieBreaker ∧ c.tieBreaker ≤ 1)
    (hb : c.boost.isFinite = true ∧ 0 ≤ c.boost) :
    c.combineMode = .ok (if c.useDisMax then .disMax c.tieBreaker else .andOr) := by
  have htbok := checkTieBreaker_eq_ok htb
  have hvalid : c.validate = .ok () := by
    simp [validate, htbok, hb.1, Weight.not_lt_zero_of_nonneg hb.2]
  cases hd : c.useDisMax with
  | false => simp [combineMode, hvalid, hd]
  | true =>
    simp only [combineMode, hvalid, hd, CombineMode.checkedDisMax, htbok, if_true]
    rfl

end CompilerConfig

/-! ### Registries -/

namespace AnalyzerRegistry

/-- Every name of the default analyzers finds an analyzer that reports that name. -/
theorem get_defaults {n : String} (hn : n ∈ defaults.names) :
    ∃ a, defaults.get n = .ok a ∧ a.name = n := by
  have hnames :
      defaults.names = ["pattern", "simple", "standard", "whitespace", "word_delimiter"] := rfl
  rw [hnames] at hn
  simp only [List.mem_cons, List.not_mem_nil, or_false] at hn
  rcases hn with rfl | rfl | rfl | rfl | rfl <;> exact ⟨_, rfl, rfl⟩

/-- The default registry has a default analyzer, the standard one. -/
theorem defaultAnalyzer_defaults :
    ∃ a, defaults.defaultAnalyzer = .ok a ∧ a.name = "standard" :=
  get_defaults (by decide)

end AnalyzerRegistry

namespace Provider

/-- Parameters a template provider is made from: a string `template`, and a `field` that is
absent or a string. -/
def TemplateParams (ps : Json.Members) : Prop :=
  (∃ t, (Json.object ps).get? "template" = some (.string t)) ∧
    ∀ j, (Json.object ps).get? "field" = some j → ∃ f, j = .string f

/-- Template parameters give a template provider. -/
theorem ofTemplateParams_eq_ok {ps : Json.Members} (h : TemplateParams ps) :
    ∃ t f, ofTemplateParams ps = .ok (.template t f) := by
  obtain ⟨⟨t, ht⟩, hfield⟩ := h
  unfold ofTemplateParams
  rw [show (ps.find? (·.1 == "template")).map Prod.snd = some (.string t) from ht]
  cases hf : (Json.object ps).get? "field" with
  | none =>
    rw [show (ps.find? (·.1 == "field")).map Prod.snd = none from hf]
    exact ⟨t, none, rfl⟩
  | some j =>
    obtain ⟨f, rfl⟩ := hfield j hf
    rw [show (ps.find? (·.1 == "field")).map Prod.snd = some (.string f) from hf]
    exact ⟨t, some f, rfl⟩

end Provider

namespace ProviderRegistry

/-- A provider name the default registry makes a provider from, given the parameters: none (the
default term provider), `term`, or `template` with template parameters. -/
def ProvidedBy (script : Option String) (params : Json.Members) : Prop :=
  script = none ∨ script = some "term" ∨
    (script = some "template" ∧ Provider.TemplateParams params)

/-- The default registry makes a provider of the name asked for. -/
theorem create_defaults {s : String} {ps : Json.Members} (h : ProvidedBy (some s) ps) :
    ∃ p, defaults.create s ps = .ok p ∧ p.name = s := by
  rcases h with h | h | ⟨h, hps⟩
  · cases h
  · cases h
    exact ⟨.term, rfl, rfl⟩
  · cases h
    obtain ⟨t, f, hp⟩ := Provider.ofTemplateParams_eq_ok hps
    exact ⟨.template t f, hp, rfl⟩

end ProviderRegistry

end ConceptQuery
