import ConceptQuery.Proofs.Weight.Unit
import ConceptQuery.Json.Value

/-!
# Widening a single to a double and narrowing it back

Requests carry weights as JSON numbers, which are doubles: a single is widened to a double to be
written (`singleToDouble`) and the double read is narrowed to the nearest single
(`doubleToSingle`). Narrowing a widened single gives the single back, whatever it is, NaN and the
infinities included (`Weight.doubleToSingle_singleToDouble`).

**Why.** Both conversions round a value to a format (`roundToFormat`). Every binary32 value is a
normal binary64 value: widening only shifts its mantissa left until it has 53 bits, lowering the
exponent as much (`Weight.roundToFormat_binary64`), and such a double packs and unpacks unchanged
(`Weight.unpack_pack_normal64`). Narrowing then shifts the mantissa back, dropping only zeros
(`Weight.round_shifted`).
-/

namespace ConceptQuery

namespace Weight

open Float.Model Float.Model.UnpackedFloat

/-! ### Rounding a value the format holds -/

/-- A value in place for the format, with its mantissa shifted left by `k` bits and its exponent
lowered by `k`, rounds to itself: nothing is shifted further left, and the shift right drops only
zeros. -/
theorem round_shifted (spec : Format) (s : Sign) (k m : Nat) (e : Int) (hm : 0 < m)
    (hc : spec.targetExponent (totalExponent m e) = e) :
    UnpackedFloat.round spec s (Nat.pow 2 k * m) (e - k) = .finite s m e hm := by
  have ht := totalExponent_shifted k m e (Nat.pos_iff_ne_zero.1 hm)
  have h0 : (e - k - e).toNat = 0 := by omega
  unfold UnpackedFloat.round decreaseExponent
  simp only [ht, hc, h0, Nat.shiftLeft_zero, Int.natCast_zero, Int.sub_zero]
  exact roundWithAccuracy_shifted spec s k m e hm hc

/-- A value whose target exponent lies `k` below its own exponent rounds to its mantissa shifted
left by `k` bits, exactly. -/
theorem round_of_targetExponent (spec : Format) (s : Sign) (k m : Nat) (e : Int) (hm : 0 < m)
    (ht : spec.targetExponent (totalExponent m e) = e - k) (hk : 0 < Nat.pow 2 k * m) :
    UnpackedFloat.round spec s m e = .finite s (Nat.pow 2 k * m) (e - k) hk := by
  have hshift : (e - (e - k)).toNat = k := by omega
  have hmul : m <<< k = Nat.pow 2 k * m := by
    rw [Nat.shiftLeft_eq, Nat.mul_comm]
    rfl
  -- The shifted value is in place: its leading digit stays where it was.
  have hc : spec.targetExponent (totalExponent (Nat.pow 2 k * m) (e - k)) = e - k := by
    rw [totalExponent_shifted k m e (Nat.pos_iff_ne_zero.1 hm), ht]
  have hexact := roundWithAccuracy_shifted spec s 0 (Nat.pow 2 k * m) (e - k) hk hc
  rw [show Nat.pow 2 0 * (Nat.pow 2 k * m) = Nat.pow 2 k * m from Nat.one_mul _,
    show e - k - ((0 : Nat) : Int) = e - k by omega] at hexact
  unfold UnpackedFloat.round decreaseExponent
  simp only [ht, hshift, hmul]
  exact hexact

/-! ### Normal doubles -/

/-- Packing a sign with double exponent and fraction bits keeps the sign. -/
theorem sign_unpackSign_packComponents64 (s : Sign) (ev : BitVec 11) (mv : BitVec 52) :
    Sign.ofBitVec (unpackSign (packComponents .binary64 s ev mv)) = s := by
  simp only [unpackSign, packComponents, BitVec.extractLsb]
  rw [BitVec.extractLsb'_append_eq_of_le (by omega), BitVec.extractLsb'_append_eq_of_le (by omega)]
  cases s <;> rfl

/-- A normal double, its mantissa of 53 bits and its exponent in range, packs and unpacks
unchanged. -/
theorem unpack_pack_normal64 (s : Sign) (m : Nat) (e : Int) (hm : 0 < m)
    (hlo : 4503599627370496 ≤ m) (hhi : m < 9007199254740992) (helo : -1074 ≤ e)
    (hehi : e ≤ 971) :
    UnpackedFloat.unpack .binary64 (UnpackedFloat.pack .binary64 (.finite s m e hm)) =
      .finite s m e hm := by
  have hlog : m.log2 = 52 := by
    have h1 : 52 ≤ m.log2 := (Nat.le_log2 (by omega)).mpr hlo
    have h2 : m.log2 < 53 := (Nat.log2_lt (by omega)).mpr hhi
    omega
  have hbiased : (e + Format.binary64.exponentBias +
      Format.binary64.mantissaBitsWithoutImplicit).toNat = (e + 1075).toNat := by
    show (e + ((2 ^ (11 - 1) - 1 : Nat) : Int) + ((52 : Nat) : Int)).toNat = _
    omega
  rw [UnpackedFloat.pack]
  simp only [hlog, hbiased]
  rw [if_neg (by show ¬2 ^ 11 ≤ (e + 1075).toNat + 1; omega),
    if_pos (show 52 + 1 = Format.binary64.mantissaBits from rfl), UnpackedFloat.unpack]
  simp only [unpackMantissa_packComponents, unpackExponent_packComponents,
    sign_unpackSign_packComponents64]
  -- The stored exponent is neither all ones nor zero, so the implicit bit is back.
  have hexp : (BitVec.ofNat 11 (e + 1075).toNat).toNat = (e + 1075).toNat := by
    rw [BitVec.toNat_ofNat]
    omega
  have hne1 : BitVec.ofNat 11 (e + 1075).toNat ≠ -1#11 := fun h => by
    have := congrArg BitVec.toNat h
    rw [hexp] at this
    simp at this
    omega
  have hne0 : BitVec.ofNat 11 (e + 1075).toNat ≠ 0#11 := fun h => by
    have := congrArg BitVec.toNat h
    rw [hexp] at this
    simp at this
    omega
  have hmant : (1#1 ++ BitVec.ofNat 52 m).toNat = m := by
    rw [toNat_one_append, BitVec.toNat_ofNat]
    show 4503599627370496 + m % 4503599627370496 = m
    omega
  rw [if_neg hne1, if_neg hne0]
  -- The mantissa closes by `hmant`; the exponent is the stored one less the bias.
  congr 1
  rw [hexp]
  show ((e + 1075).toNat : Int) - (((1023 : Nat) : Int) + ((52 : Nat) : Int)) = e
  omega

/-! ### Widening and narrowing -/

/-- Widening a finite single shifts its mantissa to 53 bits: the result is a normal double. -/
theorem roundToFormat_binary64 {s : Sign} {m : Nat} {e : Int} {h : 0 < m}
    (hc : Canonical (.finite s m e h)) :
    ∃ (k : Nat) (hk : 0 < Nat.pow 2 k * m),
      roundToFormat .binary64 (.finite s m e h) = .finite s (Nat.pow 2 k * m) (e - k) hk ∧
        4503599627370496 ≤ Nat.pow 2 k * m ∧ Nat.pow 2 k * m < 9007199254740992 ∧
        -1074 ≤ e - k ∧ e - k ≤ 971 := by
  -- A single's mantissa has at most 24 bits, and its exponent lies well inside a double's.
  have hrange : m.log2 ≤ 23 ∧ -149 ≤ e ∧ e + m.log2 ≤ 127 := by
    cases hc with
    | subnormal _ _ _ hm =>
      have : m.log2 < 23 := (Nat.log2_lt (by omega)).mpr (by omega)
      omega
    | normal _ _ _ _ _ hhi helo hehi =>
      have : m.log2 < 24 := (Nat.log2_lt (by omega)).mpr (by omega)
      omega
  have hlog : (Nat.pow 2 (52 - m.log2) * m).log2 = 52 := by
    rw [log2_pow_mul _ m (Nat.pos_iff_ne_zero.1 h)]
    omega
  have hk : 0 < Nat.pow 2 (52 - m.log2) * m := Nat.mul_pos (Nat.pow_pos (by decide)) h
  have ht :
      Format.binary64.targetExponent (totalExponent m e) = e - ((52 - m.log2 : Nat) : Int) := by
    have hmin : Format.binary64.minExponent = -1074 := rfl
    have hbits : Format.binary64.mantissaBits = 53 := rfl
    unfold Format.targetExponent totalExponent
    rw [hmin, hbits]
    omega
  -- The shifted mantissa has 53 bits.
  have hlo : 2 ^ 52 ≤ Nat.pow 2 (52 - m.log2) * m :=
    (Nat.le_log2 (Nat.pos_iff_ne_zero.1 hk)).mp (Nat.le_of_eq hlog.symm)
  have hhi : Nat.pow 2 (52 - m.log2) * m < 2 ^ 53 :=
    (Nat.log2_lt (Nat.pos_iff_ne_zero.1 hk)).mp (by omega)
  exact ⟨52 - m.log2, hk, round_of_targetExponent .binary64 s _ m e h ht hk, hlo, hhi, by omega,
    by omega⟩

/-- Widening a single and narrowing the result gives the unpacked single back. -/
theorem roundToFormat_narrow_widen {u : UnpackedFloat} (hu : Canonical u) :
    roundToFormat .binary32 (UnpackedFloat.unpack .binary64
        (UnpackedFloat.pack .binary64 (roundToFormat .binary64 u))) = u := by
  cases u with
  | notANumber => rfl
  | infinity s => cases s <;> rfl
  | zero s => cases s <;> rfl
  | finite s m e h =>
    obtain ⟨k, hk, hwide, hlo, hhi, helo, hehi⟩ := roundToFormat_binary64 hu
    rw [hwide, unpack_pack_normal64 s _ _ hk hlo hhi helo hehi]
    exact round_shifted .binary32 s k m e h (targetExponent_of_canonical hu)

/-- Narrowing a widened single gives it back: the double written for a weight is read as that
weight, NaN and the infinities included. -/
theorem doubleToSingle_singleToDouble (x : Float32) : doubleToSingle (singleToDouble x) = x := by
  obtain ⟨f⟩ := x
  have hf : Canonical f.unpack := canonical_unpack _
  show Float32.ofModel (Float32.Model.pack (roundToFormat .binary32
    (UnpackedFloat.unpack .binary64 (UnpackedFloat.pack .binary64
      (roundToFormat .binary64 f.unpack))))) = Float32.ofModel f
  rw [roundToFormat_narrow_widen hf, model_pack_unpack]

end Weight

end ConceptQuery
