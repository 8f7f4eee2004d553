import ConceptQuery.Proofs.Weight.Nearest
import ConceptQuery.Proofs.Weight.Widen

/-!
# Reading a decimal into a single

A decimal `D * 10^E` becomes a single through core's `Float32.ofScientific`, which takes one of
two paths. A mantissa below `2^23` with `|E| ≤ 10` is converted exactly and multiplied or divided
by a power of ten that a single holds exactly; everything else is rounded from its exact value by
the format's own product or quotient. Either way one exact value is rounded once, so both paths
give the single that value rounds to (`Weight.ofScientific_eq_of_roundsTo`).

**Products and quotients.** A product's mantissa is exact, and a quotient is taken with enough
bits, its remainder kept as the accuracy (`Weight.divCore_approximates`). Rounded, either is the
single the exact result rounds to (`Weight.mul_of_roundsTo`, `Weight.div_of_roundsTo`).

**Packing.** The next operation unpacks what the last one packed; packing a canonical value and
unpacking it again changes nothing (`Weight.unpack_pack_of_canonical`).
-/

namespace ConceptQuery

namespace Weight

open Float.Model Float.Model.UnpackedFloat

/-! ### Packing and unpacking a canonical value -/

/-- Packing a sign with exponent and fraction bits keeps the sign. -/
theorem sign_unpackSign_packComponents (s : Sign) (ev : BitVec 8) (mv : BitVec 23) :
    Sign.ofBitVec (unpackSign (packComponents .binary32 s ev mv)) = s := by
  simp only [unpackSign, packComponents, BitVec.extractLsb]
  rw [BitVec.extractLsb'_append_eq_of_le (by omega), BitVec.extractLsb'_append_eq_of_le (by omega)]
  cases s <;> rfl

/-- A normal single packed and unpacked is itself. -/
theorem unpack_pack_normal (s : Sign) (m : ℕ) (e : ℤ) (hm : 0 < m) (hlo : 8388608 ≤ m)
    (hhi : m < 16777216) (helo : -149 ≤ e) (hehi : e ≤ 104) :
    unpack .binary32 (UnpackedFloat.pack .binary32 (.finite s m e hm)) = .finite s m e hm := by
  have hlog : m.log2 = 23 := by
    have h1 : 23 ≤ m.log2 := (Nat.le_log2 (by omega)).mpr hlo
    have h2 : m.log2 < 24 := (Nat.log2_lt (by omega)).mpr hhi
    omega
  have hbiased : (e + Format.binary32.exponentBias +
      Format.binary32.mantissaBitsWithoutImplicit).toNat = (e + 150).toNat := by
    show (e + ((2 ^ (8 - 1) - 1 : Nat) : Int) + ((23 : Nat) : Int)).toNat = _
    omega
  rw [UnpackedFloat.pack]
  simp only [hlog, hbiased]
  rw [if_neg (by show ¬2 ^ 8 ≤ (e + 150).toNat + 1; omega),
    if_pos (show 23 + 1 = Format.binary32.mantissaBits from rfl), UnpackedFloat.unpack]
  simp only [unpackMantissa_packComponents, unpackExponent_packComponents,
    sign_unpackSign_packComponents]
  have hexp : (BitVec.ofNat 8 (e + 150).toNat).toNat = (e + 150).toNat := by
    rw [BitVec.toNat_ofNat]
    omega
  have hne1 : BitVec.ofNat 8 (e + 150).toNat ≠ -1#8 := fun h => by
    have := congrArg BitVec.toNat h
    rw [hexp] at this
    simp at this
    omega
  have hne0 : BitVec.ofNat 8 (e + 150).toNat ≠ 0#8 := fun h => by
    have := congrArg BitVec.toNat h
    rw [hexp] at this
    simp at this
    omega
  have hmant : (1#1 ++ BitVec.ofNat 23 m).toNat = m := by
    rw [toNat_one_append, BitVec.toNat_ofNat]
    show 8388608 + m % 8388608 = m
    omega
  rw [if_neg hne1, if_neg hne0]
  congr 1
  rw [hexp]
  show ((e + 150).toNat : Int) - (((127 : Nat) : Int) + ((23 : Nat) : Int)) = e
  omega

/-- A subnormal single packed and unpacked is itself. -/
theorem unpack_pack_subnormal (s : Sign) (m : ℕ) (hm : 0 < m) (hhi : m < 8388608) :
    unpack .binary32 (UnpackedFloat.pack .binary32 (.finite s m (-149) hm)) =
      .finite s m (-149) hm := by
  have hlog : ¬m.log2 + 1 = Format.binary32.mantissaBits := by
    have : m.log2 < 23 := (Nat.log2_lt (by omega)).mpr hhi
    show ¬m.log2 + 1 = 24
    omega
  have hbiased : (-149 + Format.binary32.exponentBias +
      Format.binary32.mantissaBitsWithoutImplicit : ℤ).toNat = 1 := by decide
  rw [UnpackedFloat.pack]
  simp only [hbiased]
  rw [if_neg (by decide), if_neg hlog, UnpackedFloat.unpack]
  simp only [unpackMantissa_packComponents, unpackExponent_packComponents,
    sign_unpackSign_packComponents]
  have hmant : (BitVec.ofNat 23 m).toNat = m := by
    rw [BitVec.toNat_ofNat]
    omega
  have hne : BitVec.ofNat 23 m ≠ 0#23 := fun h => by
    have := congrArg BitVec.toNat h
    rw [hmant] at this
    simp at this
    omega
  rw [if_neg (by decide), if_pos trivial, dif_neg hne]
  simp only [hmant]
  rfl

/-- Packing a canonical value and unpacking it again gives it back. -/
theorem unpack_pack_of_canonical {u : UnpackedFloat} (h : Canonical u) :
    unpack .binary32 (UnpackedFloat.pack .binary32 u) = u := by
  cases h with
  | notANumber => rfl
  | infinity s => cases s <;> rfl
  | zero s => cases s <;> rfl
  | subnormal s m h hm => exact unpack_pack_subnormal s m h hm
  | normal s m e h hlo hhi helo hehi => exact unpack_pack_normal s m e h hlo hhi helo hehi

/-! ### Products and quotients -/

/-- A mantissa of at least 24 bits is precise enough for the format at any exponent. -/
theorem le_targetExponent_of_log2 {m : ℕ} {e : ℤ} (h : 23 ≤ m.log2) :
    e ≤ Format.binary32.targetExponent (totalExponent m e) := by
  rw [targetExponent_binary32, totalExponent]
  omega

/-- The product of two finite values, with at least 24 bits between the two mantissas, is the
single their exact product rounds to. -/
theorem mul_of_roundsTo {s₁ s₂ : Sign} {m₁ m₂ : ℕ} {e₁ e₂ : ℤ} {h₁ : 0 < m₁} {h₂ : 0 < m₂}
    (hlog : 23 ≤ (m₁ * m₂).log2) {s : Sign} {m : ℕ} {q : ℤ} {hm : 0 < m}
    (hc : Canonical (.finite s m q hm))
    (hr : RoundsTo m q ((m₁ * 2 ^ e₁) * (m₂ * 2 ^ e₂))) :
    UnpackedFloat.mul .binary32 (.finite s₁ m₁ e₁ h₁) (.finite s₂ m₂ e₂ h₂) =
      .finite (s₁ * s₂) m q hm := by
  refine roundWithAccuracy_of_roundsTo hc hr ?_ (le_targetExponent_of_log2 hlog) _
  show (m₁ * 2 ^ e₁) * (m₂ * 2 ^ e₂) / 2 ^ (e₁ + e₂) = ((m₁ * m₂ : ℕ) : ℚ)
  rw [zpow_add₀ two_ne_zero]
  push_cast
  field_simp

/-- The remainder of a division, as the accuracy of its quotient. -/
theorem approximates_accuracyOfFraction (n : ℕ) {num den : ℕ} (h : num < den) :
    Approximates n (n + num / den) (accuracyOfFraction num den) := by
  have hden : (0 : ℚ) < den := by exact_mod_cast (Nat.zero_le num).trans_lt h
  have hlt : (num : ℚ) / den < 1 := (div_lt_one hden).2 (by exact_mod_cast h)
  unfold accuracyOfFraction
  split
  · rename_i h0
    show (n : ℚ) + num / den = n
    rw [h0, Nat.cast_zero, zero_div, add_zero]
  · rename_i h0
    have hpos : (0 : ℚ) < num / den := div_pos (by exact_mod_cast Nat.pos_of_ne_zero h0) hden
    rcases hc : compare (2 * num) den with _ | _ | _
    · have h2 : ((2 * num : ℕ) : ℚ) < den := by exact_mod_cast Nat.compare_eq_lt.1 hc
      have : (num : ℚ) / den < 1 / 2 := by
        rw [div_lt_iff₀ hden]
        push_cast at h2
        linarith
      exact ⟨by linarith, by linarith⟩
    · have h2 : ((2 * num : ℕ) : ℚ) = den := by exact_mod_cast Nat.compare_eq_eq.1 hc
      show (n : ℚ) + num / den = n + 1 / 2
      push_cast at h2
      rw [← h2]
      field_simp
    · have h2 : (den : ℚ) < ((2 * num : ℕ) : ℚ) := by exact_mod_cast Nat.compare_eq_gt.1 hc
      have : 1 / 2 < (num : ℚ) / den := by
        rw [lt_div_iff₀ hden]
        push_cast at h2
        linarith
      exact ⟨by linarith, by linarith⟩

/-- The quotient a division takes before rounding: its mantissa, exponent and accuracy
approximate the exact quotient, with at least as many bits as the format keeps. -/
theorem divCore_approximates {m₁ m₂ : ℕ} (e₁ e₂ : ℤ) (h₁ : 0 < m₁) (h₂ : 0 < m₂) :
    Approximates (divCore .binary32 m₁ e₁ m₂ e₂).1
        ((m₁ * 2 ^ e₁) / (m₂ * 2 ^ e₂) / 2 ^ (divCore .binary32 m₁ e₁ m₂ e₂).2.1)
        (divCore .binary32 m₁ e₁ m₂ e₂).2.2 ∧
      (divCore .binary32 m₁ e₁ m₂ e₂).2.1 ≤
        Format.binary32.targetExponent (totalExponent (divCore .binary32 m₁ e₁ m₂ e₂).1
          (divCore .binary32 m₁ e₁ m₂ e₂).2.1) := by
  -- The quotient is taken at an exponent `t` no larger than `e₁ - e₂`, after shifting `m₁` left
  -- by the difference `k`.
  set t := min (e₁ - e₂)
    (Format.binary32.targetExponent (totalExponent m₁ e₁ - totalExponent m₂ e₂)) with ht
  set k := (e₁ - e₂ - t).toNat with hk
  have hkt : (k : ℤ) = e₁ - e₂ - t := by omega
  have hshift : m₁ <<< k = m₁ * 2 ^ k := Nat.shiftLeft_eq m₁ k
  show Approximates ((m₁ <<< k) / m₂) ((m₁ * 2 ^ e₁) / (m₂ * 2 ^ e₂) / 2 ^ t)
      (accuracyOfFraction ((m₁ <<< k) % m₂) m₂) ∧
    t ≤ Format.binary32.targetExponent (totalExponent ((m₁ <<< k) / m₂) t)
  refine ⟨?_, ?_⟩
  · have hm₂ : (m₂ : ℚ) ≠ 0 := by exact_mod_cast h₂.ne'
    have hpow : (2 : ℚ) ^ e₁ = 2 ^ k * 2 ^ e₂ * 2 ^ t := by
      rw [← zpow_natCast, ← zpow_add₀ two_ne_zero, ← zpow_add₀ two_ne_zero, hkt]
      ring_nf
    have hsplit := Nat.div_add_mod (m₁ <<< k) m₂
    have hval : (m₁ * 2 ^ e₁) / (m₂ * 2 ^ e₂) / 2 ^ t =
        (((m₁ <<< k) / m₂ : ℕ) : ℚ) + ((m₁ <<< k) % m₂ : ℕ) / m₂ := by
      have hM : ((m₁ * 2 ^ k : ℕ) : ℚ) =
          m₂ * (((m₁ <<< k) / m₂ : ℕ) : ℚ) + ((m₁ <<< k) % m₂ : ℕ) := by
        rw [← hshift]
        exact_mod_cast hsplit.symm
      push_cast at hM
      rw [hpow]
      field_simp
      linear_combination hM
    rw [hval]
    exact approximates_accuracyOfFraction _ (Nat.mod_lt _ h₂)
  · rcases le_or_gt t (-149) with hmin | hmin
    · rw [targetExponent_binary32]
      omega
    · -- above the least exponent, the quotient has at least 24 bits
      have hk' : m₂.log2 + 24 ≤ m₁.log2 + k := by
        rw [targetExponent_binary32, totalExponent, totalExponent] at ht
        omega
      have hbits : 2 ^ 23 * m₂ ≤ m₁ <<< k := by
        calc 2 ^ 23 * m₂ ≤ 2 ^ 23 * 2 ^ (m₂.log2 + 1) :=
              Nat.mul_le_mul_left _ Nat.lt_log2_self.le
          _ = 2 ^ (m₂.log2 + 24) := by rw [← Nat.pow_add]; ring_nf
          _ ≤ 2 ^ (m₁.log2 + k) := Nat.pow_le_pow_right (by decide) hk'
          _ = 2 ^ m₁.log2 * 2 ^ k := Nat.pow_add _ _ _
          _ ≤ m₁ * 2 ^ k := Nat.mul_le_mul_right _ (Nat.log2_self_le h₁.ne')
          _ = m₁ <<< k := hshift.symm
      have hq : 2 ^ 23 ≤ (m₁ <<< k) / m₂ := (Nat.le_div_iff_mul_le h₂).2 (by linarith)
      exact le_targetExponent_of_log2 ((Nat.le_log2 (by omega)).2 hq)

/-- The quotient of two finite values is the single their exact quotient rounds to. -/
theorem div_of_roundsTo {s₁ s₂ : Sign} {m₁ m₂ : ℕ} {e₁ e₂ : ℤ} {h₁ : 0 < m₁} {h₂ : 0 < m₂}
    {s : Sign} {m : ℕ} {q : ℤ} {hm : 0 < m} (hc : Canonical (.finite s m q hm))
    (hr : RoundsTo m q ((m₁ * 2 ^ e₁) / (m₂ * 2 ^ e₂))) :
    UnpackedFloat.div .binary32 (.finite s₁ m₁ e₁ h₁) (.finite s₂ m₂ e₂ h₂) =
      .finite (s₁ / s₂) m q hm := by
  obtain ⟨ha, he⟩ := divCore_approximates e₁ e₂ h₁ h₂
  exact roundWithAccuracy_of_roundsTo hc hr ha he _

/-! ### Decimal values -/

/-- The product of positives is positive. -/
theorem positive_mul_positive : Sign.positive * Sign.positive = .positive := rfl

/-- The quotient of positives is positive. -/
theorem positive_div_positive : Sign.positive / Sign.positive = .positive := rfl

/-- A positive decimal `D * 10^E` that the safety checks let through is the single its exact
value rounds to: a product by `10^E` for `E ≥ 0`, a quotient by `10^-E` below. -/
theorem ofScientific_of_roundsTo {D : ℕ} {E : ℤ} (hD : 0 < D) (hE : E ≤ 256)
    (hE' : -(256 + (D.log2 : ℤ)) ≤ E) {m : ℕ} {q : ℤ} {hm : 0 < m}
    (hc : Canonical (.finite .positive m q hm)) (hr : RoundsTo m q (D * 10 ^ E)) :
    UnpackedFloat.ofScientific .binary32 D E = .finite .positive m q hm := by
  rw [UnpackedFloat.ofScientific, dif_neg hD.ne', if_neg (by show ¬E > 256; omega),
    if_neg (by show ¬E < -(256 + (D.log2 : ℤ)); omega)]
  split
  · rename_i hE0
    obtain ⟨n, rfl⟩ := Int.eq_ofNat_of_zero_le hE0
    have hv : (D : ℚ) * (10 : ℚ) ^ (n : ℤ) =
        ((D <<< 24 : ℕ) * 2 ^ (-24 : ℤ)) * ((10 ^ (n : ℤ).toNat : ℕ) * 2 ^ (0 : ℤ)) := by
      rw [Nat.shiftLeft_eq, Int.toNat_natCast]
      push_cast
      rw [zpow_natCast]
      ring
    rw [hv] at hr
    have hlog : 23 ≤ ((D <<< 24) * 10 ^ (n : ℤ).toNat).log2 := by
      have hpos : 0 < 10 ^ (n : ℤ).toNat := Nat.pow_pos (by decide)
      refine (Nat.le_log2 (Nat.mul_pos (by rw [Nat.shiftLeft_eq]; positivity) hpos).ne').2 ?_
      rw [Nat.shiftLeft_eq]
      calc 2 ^ 23 ≤ D * 2 ^ 24 := by nlinarith [Nat.one_le_two_pow (n := 24)]
        _ ≤ D * 2 ^ 24 * 10 ^ (n : ℤ).toNat := Nat.le_mul_of_pos_right _ hpos
    rw [← positive_mul_positive]
    exact mul_of_roundsTo hlog hc hr
  · rename_i hE0
    have hv : (D : ℚ) * (10 : ℚ) ^ E =
        (D * 2 ^ (0 : ℤ)) / ((10 ^ (-E).toNat : ℕ) * 2 ^ (0 : ℤ)) := by
      have : E = -(((-E).toNat : ℕ) : ℤ) := by omega
      conv_lhs => rw [this]
      push_cast
      rw [zpow_neg, zpow_natCast]
      ring
    rw [hv] at hr
    rw [← positive_div_positive]
    exact div_of_roundsTo hc hr

/-! ### The short path -/

/-- The powers of ten a single holds exactly, one to ten billion, unpack to their values. -/
theorem unpack_powerOfTen {n : ℕ} (hn : n < Float32.exactlyRepresentablePowersOfTen.size) :
    ∃ (m : ℕ) (e : ℤ) (hm : 0 < m),
      (Float32.exactlyRepresentablePowersOfTen[n]).toModel.unpack = .finite .positive m e hm ∧
        (m : ℚ) * 2 ^ e = 10 ^ n := by
  have hsize : Float32.exactlyRepresentablePowersOfTen.size = 11 := rfl
  rw [hsize] at hn
  -- each entry is a literal bit pattern; unpacking it is a computation
  interval_cases n <;>
    simp only [Float32.exactlyRepresentablePowersOfTen, List.getElem_toArray,
      List.getElem_cons_succ, List.getElem_cons_zero]
  · exact ⟨8388608, -23, by decide, rfl, by norm_num⟩
  · exact ⟨10485760, -20, by decide, rfl, by norm_num⟩
  · exact ⟨13107200, -17, by decide, rfl, by norm_num⟩
  · exact ⟨16384000, -14, by decide, rfl, by norm_num⟩
  · exact ⟨10240000, -10, by decide, rfl, by norm_num⟩
  · exact ⟨12800000, -7, by decide, rfl, by norm_num⟩
  · exact ⟨16000000, -4, by decide, rfl, by norm_num⟩
  · exact ⟨10000000, 0, by decide, rfl, by norm_num⟩
  · exact ⟨12500000, 3, by decide, rfl, by norm_num⟩
  · exact ⟨15625000, 6, by decide, rfl, by norm_num⟩
  · exact ⟨9765625, 10, by decide, rfl, by norm_num⟩

/-- A natural number below `2^23` converts to a single exactly: its mantissa is shifted left to
24 bits, the exponent lowered as much. -/
theorem ofNat_of_lt {D : ℕ} (hD : 0 < D) (hlt : D < 2 ^ 23) :
    UnpackedFloat.ofNat .binary32 D =
      .finite .positive (2 ^ (23 - D.log2) * D) (-((23 - D.log2 : ℕ) : ℤ))
        (Nat.mul_pos (Nat.two_pow_pos _) hD) := by
  have hlog : D.log2 < 23 := (Nat.log2_lt hD.ne').2 hlt
  have hcmp : compare (D : ℤ) 0 = .gt := by
    rw [compare_gt_iff_gt]
    exact_mod_cast hD
  have ht : Format.binary32.targetExponent (totalExponent D 0) = 0 - ((23 - D.log2 : ℕ) : ℤ) := by
    rw [targetExponent_binary32, totalExponent]
    omega
  have hround := round_of_targetExponent .binary32 .positive (23 - D.log2) D 0 hD ht
    (Nat.mul_pos (Nat.two_pow_pos _) hD)
  rw [zero_sub] at hround
  simp only [UnpackedFloat.ofNat, UnpackedFloat.ofInt, UnpackedFloat.normalize, hcmp,
    Int.toNat_natCast]
  exact hround

/-- A number shifted up to 24 bits has its highest bit at 23. -/
theorem log2_shifted {D : ℕ} (hD : 0 < D) (hlt : D < 2 ^ 23) :
    (2 ^ (23 - D.log2) * D).log2 = 23 := by
  have hlog : D.log2 < 23 := (Nat.log2_lt hD.ne').2 hlt
  rw [show 2 ^ (23 - D.log2) * D = Nat.pow 2 (23 - D.log2) * D from rfl,
    log2_pow_mul _ D hD.ne']
  omega

/-- A positive integer below `2^23` is a canonical single. -/
theorem canonical_ofNat_of_lt {D : ℕ} (hD : 0 < D) (hlt : D < 2 ^ 23) :
    Canonical (UnpackedFloat.ofNat .binary32 D) := by
  have hlog : D.log2 < 23 := (Nat.log2_lt hD.ne').2 hlt
  have hbits := log2_shifted hD hlt
  have hpos : 0 < 2 ^ (23 - D.log2) * D := Nat.mul_pos (Nat.two_pow_pos _) hD
  rw [ofNat_of_lt hD hlt]
  refine .normal _ _ _ _ ?_ ?_ ?_ ?_
  · exact (Nat.le_log2 hpos.ne').1 hbits.ge
  · have h24 : 2 ^ (23 - D.log2) * D < 2 ^ 24 := (Nat.log2_lt hpos.ne').1 (by omega)
    exact h24
  · omega
  · omega

/-! ### Both paths -/

/-- A mantissa below `2^23` converts to a single exactly, with 24 bits. -/
theorem unpack_toFloat32_of_lt {D : ℕ} (hD : 0 < D) (hlt : D < 2 ^ 23) :
    ∃ (M : ℕ) (e : ℤ) (hM : 0 < M),
      (D.toUInt64.toFloat32).toModel.unpack = .finite .positive M e hM ∧
        (M : ℚ) * 2 ^ e = D ∧ 2 ^ 23 ≤ M := by
  have hpos : 0 < 2 ^ (23 - D.log2) * D := Nat.mul_pos (Nat.two_pow_pos _) hD
  refine ⟨2 ^ (23 - D.log2) * D, -((23 - D.log2 : ℕ) : ℤ), hpos, ?_, ?_, ?_⟩
  · show unpack .binary32 (UnpackedFloat.pack .binary32
      (UnpackedFloat.ofNat .binary32 D.toUInt64.toNat)) = _
    rw [UInt64.toNat_ofNat_of_lt' (hlt.trans (by decide)),
      unpack_pack_of_canonical (canonical_ofNat_of_lt hD hlt), ofNat_of_lt hD hlt]
  · push_cast
    rw [zpow_neg, zpow_natCast]
    field_simp
  · exact (Nat.le_log2 hpos.ne').1 (log2_shifted hD hlt).ge

/-- The sign and magnitude a literal gives `Float32.ofScientific` read back as the exponent. -/
theorem exponent_of_natAbs (E : ℤ) :
    (if decide (E < 0) then Int.negOfNat E.natAbs else Int.ofNat E.natAbs) = E := by
  by_cases h : E < 0
  · rw [if_pos (decide_eq_true h), Int.negOfNat_eq, Int.ofNat_eq_natCast]
    omega
  · rw [if_neg (by simpa using h), Int.ofNat_eq_natCast]
    omega

/-- A positive decimal `D * 10^E` that the safety checks let through is read as the single its
exact value rounds to, by either path: a small mantissa and exponent multiply or divide by an
exactly held power of ten, the others round the exact value at once. -/
theorem ofScientific_eq_of_roundsTo {D : ℕ} {E : ℤ} (hD : 0 < D) (hE : E ≤ 256)
    (hE' : -(256 + (D.log2 : ℤ)) ≤ E) {m : ℕ} {q : ℤ} {hm : 0 < m}
    (hc : Canonical (.finite .positive m q hm)) (hr : RoundsTo m q (D * 10 ^ E)) :
    Float32.ofScientific D (decide (E < 0)) E.natAbs =
      Float32.ofModel (Float32.Model.pack (.finite .positive m q hm)) := by
  unfold Float32.ofScientific
  split
  · rename_i hfast
    obtain ⟨m₂, e₂, h₂, hpow, hval⟩ := unpack_powerOfTen (n := E.natAbs) (by
      show E.natAbs < 11
      omega)
    obtain ⟨m₁, e₁, h₁, hnat, hD', hbits⟩ := unpack_toFloat32_of_lt hD hfast.1
    split
    · rename_i hneg
      have hE0 : E < 0 := of_decide_eq_true hneg
      show Float32.ofModel (Float32.Model.pack (UnpackedFloat.div .binary32
        (D.toUInt64.toFloat32).toModel.unpack _)) = _
      rw [hnat, hpow, ← positive_div_positive]
      refine congrArg _ (congrArg _ (div_of_roundsTo hc ?_))
      have hE10 : (10 : ℚ) ^ E = (10 ^ E.natAbs)⁻¹ := by
        rw [← zpow_natCast, ← zpow_neg]
        congr 1
        omega
      rw [hD', hval, div_eq_mul_inv, ← hE10]
      exact hr
    · rename_i hneg
      have hE0 : 0 ≤ E := by simpa using hneg
      show Float32.ofModel (Float32.Model.pack (UnpackedFloat.mul .binary32
        (D.toUInt64.toFloat32).toModel.unpack _)) = _
      rw [hnat, hpow, ← positive_mul_positive]
      have hlog : 23 ≤ (m₁ * m₂).log2 :=
        (Nat.le_log2 (Nat.mul_pos h₁ h₂).ne').2 (hbits.trans (Nat.le_mul_of_pos_right _ h₂))
      refine congrArg _ (congrArg _ (mul_of_roundsTo hlog hc ?_))
      have hE10 : (10 : ℚ) ^ E = 10 ^ E.natAbs := by
        rw [← zpow_natCast]
        congr 1
        omega
      rw [hD', hval, ← hE10]
      exact hr
  · show Float32.ofModel (Float32.Model.pack (UnpackedFloat.ofScientific .binary32 D _)) = _
    rw [exponent_of_natAbs, ofScientific_of_roundsTo hD hE hE' hc hr]

end Weight

end ConceptQuery
