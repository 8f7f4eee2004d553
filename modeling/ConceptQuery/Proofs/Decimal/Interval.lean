import ConceptQuery.Proofs.Weight.Scientific
import ConceptQuery.Decimal.Layout

/-!
# The values the shortest decimal of a single lies among

A single is printed from its bits: `FloatParts.ofFloat32` decodes its sign, exponent and
fraction fields into `m * 2^q`, and `Binary.shortest` searches the decimal grids for a decimal
that reads back (`Binary.readsBack`). This module ties that side to the format's rounding.

* Decoding the bits gives the mantissa and exponent that unpacking them gives, the gap below
  being narrow exactly at the bottom of a binade above the subnormals
  (`Decimal.ofFloat32_eq_ofUnpacked`).
* A decimal reads back exactly when it lies among the values that round to the single
  (`Decimal.Binary.readsBack_iff`).
* The shortest decimal reads back (`Decimal.Binary.shortest_readsBack`), so it rounds to the
  single (`Decimal.roundsTo_shortest`).
-/

namespace ConceptQuery

namespace Decimal

open Float.Model Float.Model.UnpackedFloat

/-! ### Decoding the bits of a single -/

/-- The parts an unpacked single stands for. -/
def FloatParts.ofUnpacked : UnpackedFloat → FloatParts
  | .notANumber => .nan
  | .infinity s => .infinite (s == .negative)
  | .zero s => .finite (s == .negative) ⟨0, -149, false⟩
  | .finite s m e _ => .finite (s == .negative) ⟨m, e, decide (m = 2 ^ 23 ∧ -149 < e)⟩

/-- The fraction field of a single is its low 23 bits. -/
theorem toNat_unpackMantissa (b : BitVec 32) :
    (@unpackMantissa .binary32 b).toNat = b.toNat % 2 ^ 23 := by
  simp [unpackMantissa, BitVec.extractLsb_toNat]

/-- The exponent field of a single is its next 8 bits. -/
theorem toNat_unpackExponent (b : BitVec 32) :
    (@unpackExponent .binary32 b).toNat = b.toNat / 2 ^ 23 % 2 ^ 8 := by
  simp [unpackExponent, BitVec.extractLsb_toNat, Nat.shiftRight_eq_div_pow]

/-- A single is negative when its top bit is set. -/
theorem ofBitVec_unpackSign (b : BitVec 32) :
    (Sign.ofBitVec (@unpackSign .binary32 b) == .negative) = (b.toNat / 2 ^ 31 % 2 == 1) := by
  have h : (@unpackSign .binary32 b).toNat = b.toNat / 2 ^ 31 % 2 := by
    simp [unpackSign, BitVec.extractLsb_toNat, Nat.shiftRight_eq_div_pow]
  unfold Sign.ofBitVec
  rcases Nat.mod_two_eq_zero_or_one (b.toNat / 2 ^ 31) with h0 | h1
  · have : @unpackSign .binary32 b = 0#1 := BitVec.eq_of_toNat_eq (by rw [h, h0]; rfl)
    rw [if_pos this, h0]
    rfl
  · have : @unpackSign .binary32 b ≠ 0#1 := fun he => by
      have := congrArg BitVec.toNat he
      rw [h, h1] at this
      simp at this
    rw [if_neg this, h1]
    rfl

/-- The parts of a single are read off its unpacked value. -/
theorem ofFloat32_eq_ofUnpacked (x : Float32) :
    FloatParts.ofFloat32 x = FloatParts.ofUnpacked x.toModel.unpack := by
  have hR := toNat_unpackMantissa x.toModel.toBits.toBitVec
  have hF := toNat_unpackExponent x.toModel.toBits.toBitVec
  have hS := ofBitVec_unpackSign x.toModel.toBits.toBitVec
  have hlt := x.toModel.toBits.toBitVec.isLt
  show BinaryFormat.single.decode x.toModel.toBits.toBitVec.toNat =
    FloatParts.ofUnpacked (UnpackedFloat.unpack .binary32 x.toModel.toBits.toBitVec)
  generalize x.toModel.toBits.toBitVec = b at hR hF hS hlt ⊢
  have hE1 : @unpackExponent .binary32 b = -1#8 ↔ b.toNat / 2 ^ 23 % 2 ^ 8 = 255 := by
    rw [← BitVec.toNat_inj, hF]
    rfl
  have hE0 : @unpackExponent .binary32 b = 0#8 ↔ b.toNat / 2 ^ 23 % 2 ^ 8 = 0 := by
    rw [← BitVec.toNat_inj, hF]
    rfl
  have hM0 : @unpackMantissa .binary32 b = 0#23 ↔ b.toNat % 2 ^ 23 = 0 := by
    rw [← BitVec.toNat_inj, hR]
    rfl
  have happ : (1#1 ++ @unpackMantissa .binary32 b).toNat = 2 ^ 23 + b.toNat % 2 ^ 23 := by
    rw [Weight.toNat_one_append, hR]
    rfl
  have hbias : ((Format.binary32.exponentBias : ℕ) : ℤ) = 127 := rfl
  unfold BinaryFormat.decode UnpackedFloat.unpack
  simp only [BinaryFormat.single, BinaryFormat.bias, Nat.pow_eq, hE1, hE0, hM0, beq_iff_eq,
    happ, hR, hF, hbias] at hS ⊢
  by_cases h255 : b.toNat / 8388608 % 256 = 255
  · by_cases hr : b.toNat % 8388608 = 0
    · simp [h255, hr, FloatParts.ofUnpacked, hS]
    · simp [h255, hr, FloatParts.ofUnpacked]
  · by_cases hz : b.toNat / 8388608 % 256 = 0
    · by_cases hr : b.toNat % 8388608 = 0
      · simp [hz, hr, FloatParts.ofUnpacked, hS]
      · simp [hz, hr, FloatParts.ofUnpacked, hS]
    · -- a normal single: the exponent field less the bias, the implicit bit set
      simp [h255, hz, FloatParts.ofUnpacked, hS]
      refine ⟨by omega, ?_⟩
      rw [Bool.eq_iff_iff]
      simp only [Bool.and_eq_true, beq_iff_eq, decide_eq_true_eq]
      omega

/-! ### Reading back -/

/-- The value of a decimal. -/
def Dec.value (d : Dec) : ℚ := d.digits * 10 ^ d.exp

namespace Binary

/-- The exact decimal `M / 10^s` of a binary value is `m * 2^q`, and its gap `G / 10^s` above is
`2^q`. -/
theorem exact_spec (x : Binary) :
    x.exact.1 = x.m * x.exact.2.2 ∧ 0 < x.exact.2.2 ∧
      (x.exact.2.2 : ℚ) / 10 ^ x.exact.2.1 = 2 ^ x.q := by
  unfold exact
  split
  · rename_i hq
    refine ⟨rfl, Nat.pow_pos (by decide), ?_⟩
    show ((2 ^ x.q.toNat : ℕ) : ℚ) / 10 ^ 0 = 2 ^ x.q
    rw [pow_zero, div_one, Nat.cast_pow, Nat.cast_ofNat, ← zpow_natCast, Int.toNat_of_nonneg hq]
  · rename_i hq
    refine ⟨rfl, Nat.pow_pos (by decide), ?_⟩
    show ((5 ^ (-x.q).toNat : ℕ) : ℚ) / 10 ^ (-x.q).toNat = 2 ^ x.q
    have hk : x.q = -(((-x.q).toNat : ℕ) : ℤ) := by omega
    conv_rhs => rw [hk]
    rw [zpow_neg, zpow_natCast, Nat.cast_pow, Nat.cast_ofNat, show (10 : ℚ) = 5 * 2 by norm_num,
      mul_pow]
    field_simp

/-- A decimal reads back as a single exactly when it lies among the values that round to it. -/
theorem readsBack_iff {x : Binary} (hm : 0 < x.m)
    (hn : x.narrowBelow = decide (x.m = 2 ^ 23 ∧ -149 < x.q)) (c : ℕ) :
    x.readsBack c = true ↔ Weight.RoundsTo x.m x.q (c / 10 ^ x.exact.2.1) := by
  obtain ⟨hMG, hG, hgap⟩ := exact_spec x
  unfold readsBack
  rcases hx : x.exact with ⟨M, s, G⟩
  rw [hx] at hMG hG hgap
  dsimp only at hMG hG hgap ⊢
  -- In units of the gap `G`, the value is `m` and the candidate is `c / G`.
  have hGq : (0 : ℚ) < G := by exact_mod_cast hG
  have hu : (c : ℚ) / 10 ^ s / 2 ^ x.q = c / G := by
    rw [← hgap]
    field_simp
  have h4c : ((4 * c : ℕ) : ℚ) = 4 * G * (c / G) := by
    push_cast
    field_simp
  have hMG' : (M : ℚ) = x.m * G := by exact_mod_cast hMG
  have hlo : (((if x.narrowBelow then 4 * M - G else 4 * M - 2 * G) : ℕ) : ℚ) =
      4 * G * (x.m - Weight.belowGap x.m x.q) := by
    have hm1 : 2 * G ≤ 4 * M := by rw [hMG]; nlinarith
    unfold Weight.belowGap
    rw [hn]
    by_cases hb : x.m = 2 ^ 23 ∧ -149 < x.q
    · rw [decide_eq_true hb, if_pos rfl, if_pos hb, Nat.cast_sub (by omega)]
      push_cast
      rw [hMG']
      ring
    · rw [decide_eq_false hb, if_neg (by decide), if_neg hb, Nat.cast_sub hm1]
      push_cast
      rw [hMG']
      ring
  have hhi : ((4 * M + 2 * G : ℕ) : ℚ) = 4 * G * (x.m + 1 / 2) := by
    push_cast
    rw [hMG']
    ring
  have h4G : (0 : ℚ) < 4 * G := by positivity
  have hlt : ∀ {a b : ℕ} {a' b' : ℚ}, (a : ℚ) = 4 * G * a' → (b : ℚ) = 4 * G * b' →
      (a < b ↔ a' < b') := fun ha hb => by
    rw [← Nat.cast_lt (α := ℚ), ha, hb, mul_lt_mul_iff_right₀ h4G]
  have heq : ∀ {a b : ℕ} {a' b' : ℚ}, (a : ℚ) = 4 * G * a' → (b : ℚ) = 4 * G * b' →
      (a = b ↔ a' = b') := fun ha hb => by
    rw [← Nat.cast_inj (R := ℚ), ha, hb, mul_right_inj' h4G.ne']
  simp only [Bool.and_eq_true, Bool.or_eq_true, decide_eq_true_eq, beq_iff_eq]
  rw [hlt hlo h4c, heq hlo h4c, hlt h4c hhi, heq h4c hhi]
  constructor
  · rintro ⟨hb, ha⟩
    exact ⟨by rwa [hu], by rwa [hu]⟩
  · rintro ⟨hb, ha⟩
    rw [hu] at hb ha
    exact ⟨hb, ha⟩

/-! ### The shortest decimal -/

/-- A candidate a grid offers reads back, and lies on that grid. -/
theorem pick_spec {x : Binary} {tie : Tie} {e c : ℕ} (h : x.pick tie e = some c) :
    x.readsBack c = true ∧ Nat.pow 10 e ∣ c := by
  have hlower : Nat.pow 10 e ∣ x.exact.1 / Nat.pow 10 e * Nat.pow 10 e := Nat.dvd_mul_left _ _
  have hupper := Nat.dvd_add hlower (Nat.dvd_refl (Nat.pow 10 e))
  unfold pick at h
  dsimp only at h
  generalize x.exact.1 / Nat.pow 10 e * Nat.pow 10 e = lower at h hlower hupper
  -- the grid's two neighbours of the value, each offered only when it reads back
  have hchoice : ∀ {l u : Bool}, x.readsBack lower = l → x.readsBack (lower + Nat.pow 10 e) = u →
      (c = lower ∧ l = true) ∨ (c = lower + Nat.pow 10 e ∧ u = true) := by
    intro l u hl hu
    rw [hl, hu] at h
    have hlow : some lower = some c → c = lower := fun h => (Option.some.inj h).symm
    have hup : some (lower + Nat.pow 10 e) = some c → c = lower + Nat.pow 10 e :=
      fun h => (Option.some.inj h).symm
    cases l <;> cases u <;> dsimp only at h
    · cases h
    · exact .inr ⟨hup h, rfl⟩
    · exact .inl ⟨hlow h, rfl⟩
    · -- both read back: the nearer one, or on a tie the one the rule picks
      split at h
      · exact .inl ⟨hlow h, rfl⟩
      · exact .inr ⟨hup h, rfl⟩
      · cases tie with
        | up => exact .inr ⟨hup h, rfl⟩
        | even =>
          dsimp only at h
          split at h
          · exact .inl ⟨hlow h, rfl⟩
          · exact .inr ⟨hup h, rfl⟩
  rcases hchoice rfl rfl with ⟨rfl, hl⟩ | ⟨rfl, hu⟩
  · exact ⟨hl, hlower⟩
  · exact ⟨hu, hupper⟩

/-- The value itself reads back. -/
theorem readsBack_exact {x : Binary} (hm : 0 < x.m) : x.readsBack x.exact.1 = true := by
  obtain ⟨hMG, hG, -⟩ := exact_spec x
  have hM : x.exact.2.2 ≤ x.exact.1 := by
    rw [hMG]
    exact Nat.le_mul_of_pos_left _ hm
  unfold readsBack
  rcases hx : x.exact with ⟨M, s, G⟩
  rw [hx] at hM hG
  dsimp only at hM hG ⊢
  simp only [Bool.and_eq_true, Bool.or_eq_true, decide_eq_true_eq]
  refine ⟨Or.inl ?_, Or.inl (by omega)⟩
  split <;> omega

/-- Moving trailing zeros into the exponent keeps the value. -/
theorem value_stripZeros (fuel : ℕ) (d : Dec) : (stripZeros fuel d).value = d.value := by
  induction fuel generalizing d with
  | zero => rfl
  | succ fuel ih =>
    unfold stripZeros
    split
    · rename_i h
      rw [ih]
      simp only [Bool.and_eq_true, bne_iff_ne, ne_eq, beq_iff_eq] at h
      obtain ⟨k, hk⟩ := Nat.dvd_of_mod_eq_zero h.2
      simp only [Dec.value, hk, Nat.mul_div_cancel_left k (by decide : 0 < 10)]
      rw [zpow_add_one₀ (by norm_num)]
      push_cast
      ring
    · rfl

/-- The shortest decimal of a value reads back as it. -/
theorem shortest_readsBack {x : Binary} (hm : 0 < x.m) (tie : Tie) :
    ∃ c, x.readsBack c = true ∧ (x.shortest tie).value = c / 10 ^ x.exact.2.1 := by
  have hexact := readsBack_exact hm
  unfold shortest
  rcases hx : x.exact with ⟨M, s, G⟩
  rw [hx] at hexact
  dsimp only
  split
  · rename_i c e hfound
    obtain ⟨i, -, hi⟩ := List.exists_of_findSome?_eq_some hfound
    obtain ⟨c', hc', hce⟩ := Option.map_eq_some_iff.1 hi
    obtain ⟨rfl, rfl⟩ := Prod.mk.inj hce
    obtain ⟨hread, k, hk⟩ := pick_spec hc'
    refine ⟨c', hread, ?_⟩
    generalize decimalLength M - 1 - i = e at hk ⊢
    subst hk
    have hdiv : Nat.pow 10 e * k / Nat.pow 10 e = k :=
      Nat.mul_div_cancel_left k (Nat.pow_pos (by decide))
    rw [value_stripZeros, Dec.value]
    dsimp only
    rw [hdiv, Nat.pow_eq, zpow_sub₀ (by norm_num), zpow_natCast, zpow_natCast]
    push_cast
    field_simp
  · refine ⟨M, hexact, ?_⟩
    rw [value_stripZeros, Dec.value, zpow_neg, zpow_natCast, div_eq_mul_inv]

end Binary

/-- The shortest decimal of a positive single's value rounds to that single. -/
theorem roundsTo_shortest {m : ℕ} {q : ℤ} (hm : 0 < m) (tie : Tie) :
    Weight.RoundsTo m q
      (Binary.shortest ⟨m, q, decide (m = 2 ^ 23 ∧ -149 < q)⟩ tie).value := by
  obtain ⟨c, hc, hv⟩ :=
    Binary.shortest_readsBack (x := ⟨m, q, decide (m = 2 ^ 23 ∧ -149 < q)⟩) hm tie
  rw [hv]
  exact (Binary.readsBack_iff hm rfl c).1 hc

end Decimal

end ConceptQuery
