import Mathlib

/-!
# One is a unit of single-precision products

Weights are single-precision floats (`Float32`), and Lean's logical model of them is the IEEE
binary32 format: an operation unpacks its arguments into a sign, a mantissa and an exponent
(`UnpackedFloat`), computes and rounds, and packs the result into 32 bits, with one canonical NaN.
Two facts of that format decide whether scaling by a weight and writing the weight directly give
the same expression:

* multiplying by one changes no float, NaN and the infinities included (`Weight.one_mul`);
* the only float that compares equal to one is one itself (`Weight.eq_one_of_beq`).

**The round trips.** Unpacking a valid 32-bit pattern gives a *canonical* value
(`Weight.canonical_unpack`): a special, or a finite float whose mantissa has 24 significant bits
and whose exponent is at least the smallest one, or a subnormal at the smallest exponent; and
packing it again gives the pattern back (`Weight.pack_unpack_of_valid`), the canonical NaN being
the only NaN a valid pattern has.

**The product.** One unpacks to the mantissa `2^23` at exponent `-23`. The exact product of a
canonical mantissa by it is the same mantissa shifted left by 23 bits, so rounding shifts it back
by 23 bits and loses nothing (`Weight.roundWithAccuracy_shifted`).
-/

namespace ConceptQuery

namespace Weight

open Float.Model Float.Model.UnpackedFloat

/-! ### Canonical values -/

/-- The values unpacking a binary32 pattern gives: NaN, the infinities and zeros, subnormals at
the smallest exponent and normals with a 24-bit mantissa. -/
inductive Canonical : UnpackedFloat → Prop
  /-- Not a number. -/
  | notANumber : Canonical .notANumber
  /-- An infinity of either sign. -/
  | infinity (s : Sign) : Canonical (.infinity s)
  /-- A zero of either sign. -/
  | zero (s : Sign) : Canonical (.zero s)
  /-- A subnormal: fewer than 24 bits, at the least exponent. -/
  | subnormal (s : Sign) (m : Nat) (h : 0 < m) (hm : m < 8388608) :
      Canonical (.finite s m (-149) h)
  /-- A normal value: 24 bits, at an exponent in range. -/
  | normal (s : Sign) (m : Nat) (e : Int) (h : 0 < m) (hlo : 8388608 ≤ m) (hhi : m < 16777216)
      (helo : -149 ≤ e) (hehi : e ≤ 104) : Canonical (.finite s m e h)

/-- A sign bit read as a sign and written back is the bit. -/
theorem sign_toBitVec_ofBitVec (v : BitVec 1) : (Sign.ofBitVec v).toBitVec = v := by
  revert v
  decide

/-- The implicit bit of a normal mantissa of `w` stored bits is worth `2^w`. -/
theorem toNat_one_append {w : Nat} (v : BitVec w) : (1#1 ++ v).toNat = Nat.pow 2 w + v.toNat := by
  rw [BitVec.toNat_append, ← Nat.shiftLeft_add_eq_or_of_lt v.isLt]
  simp [Nat.shiftLeft_eq]

/-- Every single unpacks to a canonical value. -/
theorem canonical_unpack (b : BitVec 32) : Canonical (UnpackedFloat.unpack .binary32 b) := by
  have hbias : ((Format.binary32.exponentBias : Nat) : Int) = 127 := rfl
  have hmb : ((Format.binary32.mantissaBitsWithoutImplicit : Nat) : Int) = 23 := rfl
  rw [UnpackedFloat.unpack]
  split
  · split
    · exact .infinity _
    · exact .notANumber
  · rename_i hnotinf
    split
    · rename_i hzeroexp
      split
      · exact .zero _
      · -- A zero exponent field with a mantissa is a subnormal, at the smallest exponent.
        have hexp0 : (@unpackExponent .binary32 b).toNat = 0 := by
          rw [hzeroexp]
          rfl
        have he : ((@unpackExponent .binary32 b).toNat : Int) -
            ((Format.binary32.exponentBias : Nat) +
              (Format.binary32.mantissaBitsWithoutImplicit : Nat)) + 1 = -149 := by
          rw [hexp0, hbias, hmb]
          omega
        rw [he]
        exact .subnormal _ _ _ (@unpackMantissa .binary32 b).isLt
    · rename_i hnzexp
      -- Any other exponent field is a normal: the implicit bit is set.
      have hmlt : (@unpackMantissa .binary32 b).toNat < 8388608 :=
        (@unpackMantissa .binary32 b).isLt
      have happ : (1#1 ++ @unpackMantissa .binary32 b).toNat =
          8388608 + (@unpackMantissa .binary32 b).toNat := toNat_one_append _
      have hexpLt : (@unpackExponent .binary32 b).toNat < 256 :=
        (@unpackExponent .binary32 b).isLt
      have hne1 : (@unpackExponent .binary32 b).toNat ≠ 255 := fun h =>
        hnotinf (BitVec.toNat_inj.mp (by simpa using h))
      have hne0 : (@unpackExponent .binary32 b).toNat ≠ 0 := fun h =>
        hnzexp (BitVec.toNat_inj.mp (by simpa using h))
      refine .normal _ _ _ _ ?_ ?_ ?_ ?_
      · omega
      · omega
      · rw [hbias, hmb]
        omega
      · rw [hbias, hmb]
        omega

/-! ### Packing what was unpacked -/

/-- A 32-bit pattern is its sign, exponent and mantissa fields put back together. -/
theorem packComponents_unpack (b : BitVec 32) :
    packComponents .binary32 (Sign.ofBitVec (@unpackSign .binary32 b)) (@unpackExponent .binary32 b)
      (@unpackMantissa .binary32 b) = b := by
  simp only [packComponents, sign_toBitVec_ofBitVec, unpackSign, unpackExponent, unpackMantissa,
    BitVec.extractLsb]
  ext i hi
  grind

/-- Packing the sign, exponent and fraction of a single gives its bits back. -/
theorem packComponents_eq_self {b : BitVec 32} {e : BitVec 8} {m : BitVec 23}
    (he : @unpackExponent .binary32 b = e) (hm : @unpackMantissa .binary32 b = m) :
    packComponents .binary32 (Sign.ofBitVec (@unpackSign .binary32 b)) e m = b := by
  subst he hm
  exact packComponents_unpack b

/-- Packing an unpacked valid pattern gives the pattern back: every field is where unpacking
read it, and a NaN is the canonical one. -/
theorem pack_unpack_of_valid {b : BitVec 32} (hv : Format.binary32.Valid b) :
    UnpackedFloat.pack .binary32 (UnpackedFloat.unpack .binary32 b) = b := by
  have hbias : ((Format.binary32.exponentBias : Nat) : Int) = 127 := rfl
  have hmb : ((Format.binary32.mantissaBitsWithoutImplicit : Nat) : Int) = 23 := rfl
  have hmlt : (@unpackMantissa .binary32 b).toNat < 8388608 := (@unpackMantissa .binary32 b).isLt
  have hElt : (@unpackExponent .binary32 b).toNat < 256 := (@unpackExponent .binary32 b).isLt
  rw [UnpackedFloat.unpack]
  split
  · rename_i hexp
    split
    · rename_i hmant
      exact packComponents_eq_self hexp hmant
    · rename_i hmant
      exact (hv.eq_packedNaN hexp hmant).symm
  · rename_i hexpne
    split
    · rename_i hexp0
      split
      · rename_i hmant
        exact packComponents_eq_self hexp0 hmant
      · rename_i hmant
        -- A subnormal: the biased exponent is one, and the mantissa is too short to be normal.
        have hE : (@unpackExponent .binary32 b).toNat = 0 := by
          rw [hexp0]
          rfl
        have hmpos : 0 < (@unpackMantissa .binary32 b).toNat := by
          rcases Nat.eq_zero_or_pos (@unpackMantissa .binary32 b).toNat with h | h
          · exact absurd (BitVec.toNat_inj.mp (by simpa using h)) hmant
          · exact h
        have hbe : (((@unpackExponent .binary32 b).toNat : Int) -
            ((Format.binary32.exponentBias : Nat) +
              (Format.binary32.mantissaBitsWithoutImplicit : Nat)) + 1 +
            (Format.binary32.exponentBias : Nat) +
            (Format.binary32.mantissaBitsWithoutImplicit : Nat)).toNat = 1 := by
          rw [hE, hbias, hmb]
          omega
        have hlog : ¬((@unpackMantissa .binary32 b).toNat.log2 + 1 = Format.binary32.mantissaBits) := by
          have h23 : ¬23 ≤ (@unpackMantissa .binary32 b).toNat.log2 := fun hc => by
            have := (Nat.le_log2 (by omega)).mp hc
            omega
          have h24 : Format.binary32.mantissaBits = 24 := rfl
          omega
        rw [UnpackedFloat.pack]
        simp only [hbe]
        rw [if_neg (by decide), if_neg hlog]
        refine packComponents_eq_self hexp0 ?_
        rw [BitVec.ofNat_toNat, BitVec.setWidth_eq]
    · rename_i hexpnz
      -- A normal: the biased exponent is the stored one, and the implicit bit fixes the length.
      have hEne : (@unpackExponent .binary32 b).toNat ≠ 255 := fun h =>
        hexpne (BitVec.toNat_inj.mp (by simpa using h))
      have hEnz : (@unpackExponent .binary32 b).toNat ≠ 0 := fun h =>
        hexpnz (BitVec.toNat_inj.mp (by simpa using h))
      have happ : (1#1 ++ @unpackMantissa .binary32 b).toNat =
          8388608 + (@unpackMantissa .binary32 b).toNat := toNat_one_append _
      have hbe : (((@unpackExponent .binary32 b).toNat : Int) -
          ((Format.binary32.exponentBias : Nat) +
            (Format.binary32.mantissaBitsWithoutImplicit : Nat)) +
          (Format.binary32.exponentBias : Nat) +
          (Format.binary32.mantissaBitsWithoutImplicit : Nat)).toNat =
          (@unpackExponent .binary32 b).toNat := by
        rw [hbias, hmb]
        omega
      have hlog : (1#1 ++ @unpackMantissa .binary32 b).toNat.log2 + 1 = Format.binary32.mantissaBits := by
        have h1 : 23 ≤ (1#1 ++ @unpackMantissa .binary32 b).toNat.log2 :=
          (Nat.le_log2 (by omega)).mpr (by omega)
        have h2 : ¬24 ≤ (1#1 ++ @unpackMantissa .binary32 b).toNat.log2 := fun hc => by
          have := (Nat.le_log2 (by omega)).mp hc
          omega
        have h24 : Format.binary32.mantissaBits = 24 := rfl
        omega
      rw [UnpackedFloat.pack]
      simp only [hbe]
      rw [if_neg (by simp only [Format.binary32]; omega), if_pos hlog]
      refine packComponents_eq_self ?_ ?_
      · rw [BitVec.ofNat_toNat, BitVec.setWidth_eq]
      · rw [← BitVec.toNat_inj, BitVec.toNat_ofNat, happ]
        show _ = (8388608 + (@unpackMantissa .binary32 b).toNat) % 8388608
        omega

/-- A model float is a valid pattern, so packing what it unpacks to gives it back. -/
theorem model_pack_unpack (f : Float32.Model) : Float32.Model.pack f.unpack = f := by
  obtain ⟨bits, hv⟩ := f
  have h : UnpackedFloat.pack .binary32 (UnpackedFloat.unpack .binary32 bits.toBitVec) =
      bits.toBitVec := pack_unpack_of_valid hv
  simp only [Float32.Model.pack, Float32.Model.unpack, h, UInt32.ofBitVec_toBitVec]

/-! ### Multiplying by one -/

/-- A mantissa shifted left by `k` bits and then right by `k` bits, with no bits beyond it, is
itself, exactly. -/
theorem shiftRight_exact (k m : Nat) :
    (⟨Nat.pow 2 k * m, false, false⟩ : ExtendedMantissa) >>> k = ⟨m, false, false⟩ := by
  induction k generalizing m with
  | zero =>
    show (⟨1 * m, false, false⟩ : ExtendedMantissa) = _
    rw [Nat.one_mul]
  | succ k ih =>
    have h : Nat.pow 2 (k + 1) * m = Nat.pow 2 k * (2 * m) := by
      show Nat.pow 2 k * 2 * m = _
      rw [Nat.mul_assoc]
    show ExtendedMantissa.shiftRightOne
      ((⟨Nat.pow 2 (k + 1) * m, false, false⟩ : ExtendedMantissa) >>> k) = _
    rw [h, ih]
    simp [ExtendedMantissa.shiftRightOne]

/-- Multiplying by a power of two adds to the highest bit. -/
theorem log2_pow_mul (k m : Nat) (hm : m ≠ 0) : (Nat.pow 2 k * m).log2 = m.log2 + k := by
  induction k with
  | zero =>
    rw [show Nat.pow 2 0 * m = m from Nat.one_mul m]
    rfl
  | succ k ih =>
    have h : Nat.pow 2 (k + 1) * m = 2 * (Nat.pow 2 k * m) := by
      show Nat.pow 2 k * 2 * m = _
      rw [Nat.mul_comm (Nat.pow 2 k) 2, Nat.mul_assoc]
    have hne : Nat.pow 2 k * m ≠ 0 :=
      Nat.pos_iff_ne_zero.1 (Nat.mul_pos (Nat.pow_pos (by decide)) (Nat.pos_iff_ne_zero.2 hm))
    rw [h, Nat.log2_two_mul hne, ih]
    omega

/-- Shifting a mantissa left by `k` bits while lowering the exponent by `k` keeps the position
of the leading digit. -/
theorem totalExponent_shifted (k m : Nat) (e : Int) (hm : m ≠ 0) :
    totalExponent (Nat.pow 2 k * m) (e - k) = totalExponent m e := by
  unfold totalExponent
  rw [log2_pow_mul k m hm]
  omega

/-- Rounding a value with its mantissa shifted left by `k` bits, at an exponent lowered by `k`,
gives the mantissa and exponent back when they are already in place for the format: the shift
right drops only zeros. -/
theorem roundWithAccuracy_shifted (spec : Format) (s : Sign) (k m : Nat) (e : Int) (hm : 0 < m)
    (hc : spec.targetExponent (totalExponent m e) = e) :
    roundWithAccuracy spec s (Nat.pow 2 k * m) (e - k) .exact = .finite s m e hm := by
  have ht := totalExponent_shifted k m e (Nat.pos_iff_ne_zero.1 hm)
  have hk : (e - (e - k)).toNat = k := by omega
  have h0 : (e - e).toNat = 0 := by omega
  have he : e - k + ((k : Nat) : Int) = e := by omega
  have hz : (⟨m, false, false⟩ : ExtendedMantissa) >>> 0 = ⟨m, false, false⟩ := rfl
  unfold roundWithAccuracy shiftToTargetExponent shiftToExponent
  simp only [ht, hc, hk, ExtendedMantissa.ofMantissaAndAccuracy, shiftRight_exact,
    ExtendedMantissa.roundedMantissa, ExtendedMantissa.accuracy, Accuracy.roundToNearestEven, he,
    h0, hz, Int.natCast_zero, Int.add_zero]
  rw [dif_neg (Nat.pos_iff_ne_zero.1 hm)]

/-- A canonical finite value is in place for the format: its exponent is the one the format
gives its leading digit. -/
theorem targetExponent_of_canonical {s : Sign} {m : Nat} {e : Int} {h : 0 < m}
    (hc : Canonical (.finite s m e h)) : Format.binary32.targetExponent (totalExponent m e) = e := by
  have hmin : Format.binary32.minExponent = -149 := rfl
  have hbits : Format.binary32.mantissaBits = 24 := rfl
  unfold Format.targetExponent totalExponent
  rw [hmin, hbits]
  cases hc with
  | subnormal _ _ _ hm =>
    have hlog : m.log2 < 23 := (Nat.log2_lt (by omega)).mpr (by omega)
    omega
  | normal _ _ _ _ hlo hhi helo =>
    have h1 : 23 ≤ m.log2 := (Nat.le_log2 (by omega)).mpr (by omega)
    have h2 : m.log2 < 24 := (Nat.log2_lt (by omega)).mpr (by omega)
    omega

/-- A positive sign times another is the other. -/
theorem positive_mul (s : Sign) : Sign.positive * s = s := by
  cases s <;> rfl

/-- One, unpacked: the mantissa `2^23` at exponent `-23`. -/
theorem unpack_one :
    (1 : Float32).toModel.unpack = .finite .positive 8388608 (-23) (by decide) := rfl

/-- Multiplying a canonical value by one gives it back. -/
theorem mul_one_left {u : UnpackedFloat} (hu : Canonical u) :
    UnpackedFloat.mul .binary32 (.finite .positive 8388608 (-23) (by decide)) u = u := by
  cases u with
  | notANumber => rfl
  | infinity s => exact congrArg UnpackedFloat.infinity (positive_mul s)
  | zero s => exact congrArg UnpackedFloat.zero (positive_mul s)
  | finite s m e h =>
    have hround := roundWithAccuracy_shifted .binary32 s 23 m e h (targetExponent_of_canonical hu)
    rw [show e - ((23 : Nat) : Int) = -23 + e by omega] at hround
    rw [UnpackedFloat.mul, positive_mul]
    exact hround

/-- Multiplying by one changes no single float, NaN and the infinities included. -/
theorem one_mul (w : Float32) : 1 * w = w := by
  obtain ⟨f⟩ := w
  show Float32.ofModel (Float32.Model.mul (1 : Float32).toModel f) = Float32.ofModel f
  have hf : Canonical f.unpack := canonical_unpack _
  rw [Float32.Model.mul, unpack_one, mul_one_left hf, model_pack_unpack]

/-! ### Comparing with one -/

/-- The only value that compares equal to one is one: NaN compares with nothing, and a finite
value equals one when its exponent and its mantissa are one's. -/
theorem eq_of_beq_one {u : UnpackedFloat}
    (h : u.beq (.finite .positive 8388608 (-23) (by decide)) = true) :
    u = .finite .positive 8388608 (-23) (by decide) := by
  unfold UnpackedFloat.beq at h
  cases u with
  | notANumber => simp [UnpackedFloat.compare] at h
  | infinity s => cases s <;> simp [UnpackedFloat.compare] at h
  | zero s => simp [UnpackedFloat.compare] at h
  | finite s m e hm =>
    cases s with
    | negative => simp [UnpackedFloat.compare] at h
    | positive =>
      simp only [UnpackedFloat.compare, Option.some_beq_some, beq_iff_eq, Ordering.then_eq_eq,
        compare_eq_iff_eq] at h
      obtain ⟨rfl, rfl⟩ := h
      rfl

/-- A single that compares equal to one is one. -/
theorem eq_one_of_beq (w : Float32) (h : (w == 1) = true) : w = 1 := by
  obtain ⟨f⟩ := w
  have hu : f.unpack = (1 : Float32).toModel.unpack := by
    rw [unpack_one]
    exact eq_of_beq_one h
  show Float32.ofModel f = Float32.ofModel (1 : Float32).toModel
  rw [← model_pack_unpack f, hu, model_pack_unpack]

/-- The single one equals itself. -/
theorem one_beq_one : ((1 : Float32) == 1) = true := by decide

end Weight

end ConceptQuery
