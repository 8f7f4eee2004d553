import ConceptQuery.Proofs.Weight.Unit

/-!
# Rounding to the nearest single

Every operation of the single-precision model ends by rounding an exact result to the format
(`roundWithAccuracy`). It is handed a mantissa, an exponent and an `Accuracy`, which says whether
the result is the mantissa exactly or lies beyond it, below, at or above the midpoint to the
next mantissa. This module gives those data their meaning as rationals and proves that the
rounding is to nearest, ties to even.

**Meaning.** `Weight.Approximates m u acc` says what a mantissa and an accuracy say of a rational
`u` measured in units of the mantissa's last place. Shifting right by one bit halves the unit and
keeps the meaning (`Weight.approximates_shiftRightOne`); rounding then picks the nearest mantissa,
the even one on a tie (`Weight.nearestEven_roundToNearestEven`), and there is only one such
(`Weight.NearestEven.unique`).

**Landing.** `Weight.RoundsTo m q r` says that `r` is nearer to the single `m * 2^q` than to
either neighbour, a halfway point going to an even mantissa; below the least single of a binade
the neighbour is half as far away. Rounding any such `r`, given with at least as many bits as the
format keeps, gives that single (`Weight.roundWithAccuracy_of_roundsTo`).
-/

namespace ConceptQuery

namespace Weight

open Float.Model Float.Model.UnpackedFloat

/-! ### What a mantissa with an accuracy says of a value -/

/-- What a mantissa `m` with an accuracy says of a rational `u` measured in units of `m`'s last
place: `u` is `m`, or lies strictly between `m` and `m + 1`, below, at or above the midpoint. -/
def Approximates (m : ℕ) (u : ℚ) : Accuracy → Prop
  | .exact => u = m
  | .inexact .lt => (m : ℚ) < u ∧ u < m + 1 / 2
  | .inexact .eq => u = m + 1 / 2
  | .inexact .gt => (m : ℚ) + 1 / 2 < u ∧ u < m + 1

/-- An approximated value lies between its mantissa and the next integer. -/
theorem Approximates.bounds {m : ℕ} {u : ℚ} {acc : Accuracy} (h : Approximates m u acc) :
    (m : ℚ) ≤ u ∧ u < m + 1 := by
  rcases acc with _ | (_ | _ | _) <;> simp only [Approximates] at h
  · exact ⟨h.ge, by linarith⟩
  · exact ⟨h.1.le, by linarith [h.2]⟩
  · exact ⟨by linarith, by linarith⟩
  · exact ⟨by linarith [h.1], h.2⟩

/-- Shifting a mantissa right by one bit halves its unit: the shifted mantissa and its accuracy
say the same of half the value. -/
theorem approximates_shiftRightOne {em : ExtendedMantissa} {u : ℚ}
    (h : Approximates em.mantissa u em.accuracy) :
    Approximates em.shiftRightOne.mantissa (u / 2) em.shiftRightOne.accuracy := by
  obtain ⟨m, rb, sb⟩ := em
  obtain ⟨k, rfl | rfl⟩ : ∃ k, m = 2 * k ∨ m = 2 * k + 1 := ⟨m / 2, by omega⟩
  · have hk : 2 * k / 2 = k := by omega
    have hb : (2 * k % 2 != 0) = false := by simp
    cases rb <;> cases sb <;>
      simp only [ExtendedMantissa.shiftRightOne, ExtendedMantissa.accuracy, Approximates, hk, hb,
        Bool.or_false, Bool.or_true, Nat.cast_mul, Nat.cast_ofNat] at h ⊢
    · linarith
    all_goals constructor <;> linarith
  · have hk : (2 * k + 1) / 2 = k := by omega
    have hb : ((2 * k + 1) % 2 != 0) = true := by simp
    cases rb <;> cases sb <;>
      simp only [ExtendedMantissa.shiftRightOne, ExtendedMantissa.accuracy, Approximates, hk, hb,
        Bool.or_false, Bool.or_true, Nat.cast_add, Nat.cast_mul, Nat.cast_ofNat,
        Nat.cast_one] at h ⊢
    · linarith
    all_goals constructor <;> linarith

/-- Shifting one bit further is shifting once more by one. -/
theorem shiftRight_succ (em : ExtendedMantissa) (k : ℕ) :
    em >>> (k + 1) = (em >>> k).shiftRightOne := rfl

/-- Shifting an extended mantissa right approximates the value divided by the power of two. -/
theorem approximates_shiftRight {em : ExtendedMantissa} {u : ℚ}
    (h : Approximates em.mantissa u em.accuracy) (k : ℕ) :
    Approximates (em >>> k).mantissa (u / 2 ^ k) (em >>> k).accuracy := by
  induction k with
  | zero =>
    show Approximates em.mantissa (u / 2 ^ 0) em.accuracy
    simpa using h
  | succ k ih =>
    rw [shiftRight_succ, pow_succ, ← div_div]
    exact approximates_shiftRightOne ih

/-- Shifting right divides the mantissa by the power of two. -/
theorem mantissa_shiftRight (em : ExtendedMantissa) (k : ℕ) :
    (em >>> k).mantissa = em.mantissa / 2 ^ k := by
  induction k with
  | zero => simp; rfl
  | succ k ih =>
    rw [shiftRight_succ, ExtendedMantissa.shiftRightOne]
    simp only [ih, Nat.div_div_eq_div_mul, Nat.pow_succ]

/-- Building an extended mantissa from an approximation keeps the approximation. -/
theorem approximates_ofMantissaAndAccuracy {m : ℕ} {u : ℚ} {acc : Accuracy}
    (h : Approximates m u acc) :
    Approximates (ExtendedMantissa.ofMantissaAndAccuracy m acc).mantissa u
      (ExtendedMantissa.ofMantissaAndAccuracy m acc).accuracy := by
  rcases acc with _ | (_ | _ | _) <;> exact h

/-- Building an extended mantissa keeps the mantissa. -/
theorem mantissa_ofMantissaAndAccuracy (m : ℕ) (acc : Accuracy) :
    (ExtendedMantissa.ofMantissaAndAccuracy m acc).mantissa = m := by
  rcases acc with _ | (_ | _ | _) <;> rfl

/-! ### Rounding a mantissa -/

/-- `n` is a natural number nearest to `u`, an even one when `u` lies halfway between two. -/
def NearestEven (u : ℚ) (n : ℕ) : Prop :=
  |u - n| < 1 / 2 ∨ (|u - n| = 1 / 2 ∧ n % 2 = 0)

/-- Rounding a mantissa by what its accuracy says gives the nearest mantissa, the even one on a
tie. -/
theorem nearestEven_roundToNearestEven {m : ℕ} {u : ℚ} {acc : Accuracy}
    (h : Approximates m u acc) : NearestEven u (acc.roundToNearestEven m) := by
  rcases acc with _ | (_ | _ | _) <;> simp only [Approximates] at h <;>
    simp only [Accuracy.roundToNearestEven, NearestEven]
  · left
    rw [h, sub_self, abs_zero]
    norm_num
  · left
    rw [abs_lt]
    constructor <;> linarith [h.1, h.2]
  · right
    rcases Nat.mod_two_eq_zero_or_one m with hm | hm
    · rw [hm, Nat.add_zero, h, add_sub_cancel_left, abs_of_pos (by norm_num)]
      exact ⟨rfl, hm⟩
    · rw [hm, h]
      push_cast
      rw [show (m : ℚ) + 1 / 2 - (m + 1) = -(1 / 2) by ring, abs_neg, abs_of_pos (by norm_num)]
      exact ⟨rfl, by omega⟩
  · left
    push_cast
    rw [abs_lt]
    constructor <;> linarith [h.1, h.2]

/-- The nearest integer lies within one half. -/
theorem NearestEven.abs_sub_le {u : ℚ} {n : ℕ} (h : NearestEven u n) : |u - n| ≤ 1 / 2 :=
  h.elim le_of_lt fun h => h.1.le

/-- At a tie the nearest integer chosen is even. -/
theorem NearestEven.even_of_abs_eq {u : ℚ} {n : ℕ} (h : NearestEven u n)
    (he : |u - n| = 1 / 2) :
    n % 2 = 0 :=
  h.elim (fun h => absurd he (ne_of_lt h)) And.right

/-- There is one nearest integer, ties going to the even one. -/
theorem NearestEven.unique {u : ℚ} {n n' : ℕ} (h : NearestEven u n) (h' : NearestEven u n') :
    n = n' := by
  -- Two of them, `a < b`, would be one apart with `u` halfway between: both would be even.
  have key : ∀ {a b : ℕ}, NearestEven u a → NearestEven u b → ¬a < b := by
    intro a b ha hb hab
    have hab' : (a : ℚ) + 1 ≤ b := by exact_mod_cast hab
    have hua := abs_le.1 ha.abs_sub_le
    have hub := abs_le.1 hb.abs_sub_le
    have hu : u = a + 1 / 2 := by linarith
    have hb1 : (b : ℚ) = a + 1 := by linarith
    have hea := ha.even_of_abs_eq (by rw [hu, add_sub_cancel_left, abs_of_pos (by norm_num)])
    have heb := hb.even_of_abs_eq (by
      rw [hu, hb1, show (a : ℚ) + 1 / 2 - (a + 1) = -(1 / 2) by ring, abs_neg,
        abs_of_pos (by norm_num)])
    have : b = a + 1 := by exact_mod_cast hb1
    omega
  rcases lt_trichotomy n n' with hlt | heq | hgt
  · exact absurd hlt (key h h')
  · exact heq
  · exact absurd hgt (key h' h)

/-! ### Rounding a value to a single -/

/-- A single keeps 24 bits of significand, and no exponent below `-149`. -/
theorem targetExponent_binary32 (t : ℤ) :
    Format.binary32.targetExponent t = max (t - 24) (-149) := rfl

/-- Rounding a mantissa keeps it or adds one. -/
theorem roundedMantissa_le (em : ExtendedMantissa) :
    em.mantissa ≤ em.roundedMantissa ∧ em.roundedMantissa ≤ em.mantissa + 1 := by
  obtain ⟨m, rb, sb⟩ := em
  cases rb <;> cases sb <;>
    simp only [ExtendedMantissa.roundedMantissa, ExtendedMantissa.accuracy,
      Accuracy.roundToNearestEven] <;> omega

/-- The first shift of a rounding keeps fewer than 25 bits of the mantissa, at an exponent no
smaller than the least one. -/
theorem shiftToTargetExponent_bounds (m : ℕ) (e : ℤ) (acc : Accuracy) :
    (shiftToTargetExponent .binary32 m e acc).1.mantissa < 2 ^ 24 ∧
      -149 ≤ (shiftToTargetExponent .binary32 m e acc).2 := by
  have hk : m.log2 ≤ 23 + (Format.binary32.targetExponent (totalExponent m e) - e).toNat := by
    rw [targetExponent_binary32, totalExponent]
    omega
  refine ⟨?_, ?_⟩
  · simp only [shiftToTargetExponent, shiftToExponent]
    rw [mantissa_shiftRight, mantissa_ofMantissaAndAccuracy,
      Nat.div_lt_iff_lt_mul (Nat.two_pow_pos _), ← Nat.pow_add]
    exact Nat.lt_of_lt_of_le Nat.lt_log2_self (Nat.pow_le_pow_right (by decide) (by omega))
  · show -149 ≤ e + ((Format.binary32.targetExponent (totalExponent m e) - e).toNat : ℤ)
    rw [targetExponent_binary32]
    omega

/-- A mantissa of at most 24 bits at an exponent no smaller than the least one is in place:
shifting it to its target exponent changes nothing. -/
theorem shiftToTargetExponent_of_lt {n : ℕ} {t : ℤ} (hn : n < 2 ^ 24) (ht : -149 ≤ t) :
    shiftToTargetExponent .binary32 n t .exact = (⟨n, false, false⟩, t) := by
  have hlog : n.log2 ≤ 23 := by
    rcases Nat.eq_zero_or_pos n with rfl | hpos
    · decide
    · exact Nat.lt_succ_iff.1 ((Nat.log2_lt hpos.ne').2 hn)
  have h0 : (Format.binary32.targetExponent (totalExponent n t) - t).toNat = 0 := by
    rw [targetExponent_binary32, totalExponent]
    omega
  simp only [shiftToTargetExponent, shiftToExponent, h0, Int.natCast_zero, Int.add_zero]
  rfl

/-- A mantissa that rounding carried to 25 bits is shifted once more, exactly. -/
theorem shiftToTargetExponent_carry {t : ℤ} (ht : -149 ≤ t) :
    shiftToTargetExponent .binary32 (2 ^ 24) t .exact = (⟨2 ^ 23, false, false⟩, t + 1) := by
  have h1 : (Format.binary32.targetExponent (totalExponent (2 ^ 24) t) - t).toNat = 1 := by
    rw [targetExponent_binary32, totalExponent, Nat.log2_two_pow]
    omega
  simp only [shiftToTargetExponent, shiftToExponent, h1]
  rfl

/-- Rounding a finite value to a single: the mantissa the first shift rounds to is the result, or
zero, or, when the rounding carried it to 25 bits, the least mantissa of the next binade. -/
theorem roundWithAccuracy_eq (s : Sign) (m : ℕ) (e : ℤ) (acc : Accuracy) :
    roundWithAccuracy .binary32 s m e acc =
      if h : (shiftToTargetExponent .binary32 m e acc).1.roundedMantissa = 0 then .zero s
      else if (shiftToTargetExponent .binary32 m e acc).1.roundedMantissa < 2 ^ 24 then
        .finite s _ (shiftToTargetExponent .binary32 m e acc).2 (Nat.pos_of_ne_zero h)
      else .finite s (2 ^ 23) ((shiftToTargetExponent .binary32 m e acc).2 + 1) (by decide) := by
  obtain ⟨hlt, hge⟩ := shiftToTargetExponent_bounds m e acc
  have hle := (roundedMantissa_le (shiftToTargetExponent .binary32 m e acc).1).2
  rw [roundWithAccuracy]
  generalize shiftToTargetExponent .binary32 m e acc = first at *
  obtain ⟨em, t⟩ := first
  dsimp only at *
  by_cases hz : em.roundedMantissa = 0
  · rw [hz, shiftToTargetExponent_of_lt (by decide) hge]
    rfl
  by_cases hsmall : em.roundedMantissa < 2 ^ 24
  · rw [shiftToTargetExponent_of_lt hsmall hge]
    simp only [hz, hsmall, dite_false, if_true]
  · have hcarry : em.roundedMantissa = 2 ^ 24 := by omega
    rw [hcarry, shiftToTargetExponent_carry hge]
    rfl

/-! ### The exponent a rounding lands on -/

/-- A larger exponent never has a smaller target exponent. -/
theorem targetExponent_mono {a b : ℤ} (h : a ≤ b) :
    Format.binary32.targetExponent a ≤ Format.binary32.targetExponent b := by
  rw [targetExponent_binary32, targetExponent_binary32]
  omega

/-- Below a power of two after scaling is below the scaled power. -/
theorem div_two_zpow_lt_iff {r : ℚ} {q k : ℤ} : r / 2 ^ q < 2 ^ k ↔ r < 2 ^ (q + k) := by
  rw [div_lt_iff₀ (zpow_pos two_pos q), zpow_add₀ two_ne_zero, mul_comm]

/-- At least a power of two after scaling is at least the scaled power. -/
theorem le_div_two_zpow_iff {r : ℚ} {q k : ℤ} : 2 ^ k ≤ r / 2 ^ q ↔ 2 ^ (q + k) ≤ r := by
  rw [le_div_iff₀ (zpow_pos two_pos q), zpow_add₀ two_ne_zero, mul_comm]

/-- A value approximated by a mantissa `m > 0` at exponent `e` is at least the power of two of
`m`'s leading bit. -/
theorem two_zpow_log2_le {m : ℕ} {e : ℤ} {acc : Accuracy} {r : ℚ} (hm : 0 < m)
    (ha : Approximates m (r / 2 ^ e) acc) : (2 : ℚ) ^ ((m.log2 : ℤ) + e) ≤ r := by
  have hpow : ((2 ^ m.log2 : ℕ) : ℚ) ≤ m := by exact_mod_cast Nat.log2_self_le hm.ne'
  rw [add_comm, ← le_div_two_zpow_iff, zpow_natCast]
  push_cast at hpow
  exact hpow.trans ha.bounds.1

/-- A value approximated by a mantissa at exponent `e` lies below the power of two just above
the mantissa's leading bit. -/
theorem lt_two_zpow_totalExponent {m : ℕ} {e : ℤ} {acc : Accuracy} {r : ℚ}
    (ha : Approximates m (r / 2 ^ e) acc) : r < (2 : ℚ) ^ totalExponent m e := by
  have hpow : (m : ℚ) + 1 ≤ ((2 ^ (m.log2 + 1) : ℕ) : ℚ) := by
    exact_mod_cast Nat.lt_log2_self
  rw [totalExponent, add_comm, ← div_two_zpow_lt_iff,
    show (m.log2 : ℤ) + 1 = ((m.log2 + 1 : ℕ) : ℤ) by push_cast; rfl, zpow_natCast]
  push_cast at hpow
  exact ha.bounds.2.trans_le hpow

/-- The exponent a rounding lands on is at most the one of any power of two above the value. -/
theorem targetExponent_le_of_lt {m : ℕ} {e : ℤ} {acc : Accuracy} {r : ℚ} {L : ℤ}
    (ha : Approximates m (r / 2 ^ e) acc)
    (he : e ≤ Format.binary32.targetExponent (totalExponent m e)) (hr : r < 2 ^ L) :
    Format.binary32.targetExponent (totalExponent m e) ≤ Format.binary32.targetExponent L := by
  rcases Nat.eq_zero_or_pos m with rfl | hm
  · -- no bits at all: the exponent is already the least one
    rw [targetExponent_binary32, targetExponent_binary32, totalExponent] at *
    simp only [Nat.log2_zero, Nat.cast_zero] at *
    omega
  · have hlt := (zpow_lt_zpow_iff_right₀ one_lt_two).1 ((two_zpow_log2_le hm ha).trans_lt hr)
    exact targetExponent_mono (by rw [totalExponent]; omega)

/-- The exponent a rounding lands on is at least the one of any power of two not above the
value, one binade up. -/
theorem targetExponent_le_of_le {m : ℕ} {e : ℤ} {acc : Accuracy} {r : ℚ} {L : ℤ}
    (ha : Approximates m (r / 2 ^ e) acc) (hr : 2 ^ (L - 1) ≤ r) :
    Format.binary32.targetExponent L ≤ Format.binary32.targetExponent (totalExponent m e) := by
  have hlt := (zpow_lt_zpow_iff_right₀ one_lt_two).1 (hr.trans_lt (lt_two_zpow_totalExponent ha))
  exact targetExponent_mono (by omega)

/-- The first shift of a rounding, from a mantissa with at least as many bits as the format keeps,
lands on the target exponent, with a mantissa whose rounding is the nearest to the value there. -/
theorem shiftToTargetExponent_nearestEven {m : ℕ} {e : ℤ} {acc : Accuracy} {r : ℚ}
    (ha : Approximates m (r / 2 ^ e) acc)
    (he : e ≤ Format.binary32.targetExponent (totalExponent m e)) :
    (shiftToTargetExponent .binary32 m e acc).2 =
        Format.binary32.targetExponent (totalExponent m e) ∧
      NearestEven (r / 2 ^ Format.binary32.targetExponent (totalExponent m e))
        (shiftToTargetExponent .binary32 m e acc).1.roundedMantissa := by
  set t := Format.binary32.targetExponent (totalExponent m e)
  have hk : e + ((t - e).toNat : ℤ) = t := by omega
  refine ⟨hk, ?_⟩
  have hshift := approximates_shiftRight (approximates_ofMantissaAndAccuracy ha) (t - e).toNat
  rw [div_div, ← zpow_natCast, ← zpow_add₀ two_ne_zero, hk] at hshift
  exact nearestEven_roundToNearestEven hshift

/-! ### The values that round to a single -/

/-- Half the gap to the single below `m * 2^q`, in units of its last place: a quarter at the
bottom of a binade above the subnormals, where the single below is half as far away, and a half
everywhere else. -/
def belowGap (m : ℕ) (q : ℤ) : ℚ := if m = 2 ^ 23 ∧ -149 < q then 1 / 4 else 1 / 2

/-- The rationals that round to the positive single `m * 2^q`, to nearest with ties to even:
those less than half the gap to either neighbour away from it, and those exactly halfway when
`m` is even. -/
structure RoundsTo (m : ℕ) (q : ℤ) (r : ℚ) : Prop where
  /-- The value lies less than half the gap below `m`, or exactly that far and `m` is even. -/
  below :
    (m : ℚ) - belowGap m q < r / 2 ^ q ∨ (m % 2 = 0 ∧ (m : ℚ) - belowGap m q = r / 2 ^ q)
  /-- The value lies less than half a unit above `m`, or exactly half and `m` is even. -/
  above : r / 2 ^ q < m + 1 / 2 ∨ (m % 2 = 0 ∧ r / 2 ^ q = m + 1 / 2)

namespace RoundsTo

variable {m : ℕ} {q : ℤ} {r : ℚ}

/-- A value that rounds to `m` lies at most half a unit above it. -/
theorem le_above (h : RoundsTo m q r) : r / 2 ^ q ≤ m + 1 / 2 :=
  h.above.elim le_of_lt fun h => h.2.le

/-- A value that rounds to `m` lies at most half a unit below it. -/
theorem below_le (h : RoundsTo m q r) : (m : ℚ) - 1 / 2 ≤ r / 2 ^ q := by
  have hg : (1 : ℚ) / 4 ≤ belowGap m q ∧ belowGap m q ≤ 1 / 2 := by
    unfold belowGap
    split <;> norm_num
  rcases h.below with hb | ⟨_, hb⟩ <;> linarith

/-- Away from the bottom of a binade, the single is the nearest to the value on its own grid. -/
theorem nearestEven (h : RoundsTo m q r) (hn : ¬(m = 2 ^ 23 ∧ -149 < q ∧ r / 2 ^ q < m)) :
    NearestEven (r / 2 ^ q) m := by
  by_cases hu : (m : ℚ) ≤ r / 2 ^ q
  · rcases h.above with ha | ⟨hev, ha⟩
    · left
      rw [abs_of_nonneg (sub_nonneg.2 hu)]
      linarith
    · right
      rw [ha, add_sub_cancel_left, abs_of_pos (by norm_num)]
      exact ⟨rfl, hev⟩
  · push Not at hu
    have hg : belowGap m q = 1 / 2 := if_neg fun hb => hn ⟨hb.1, hb.2, hu⟩
    rcases h.below with hb | ⟨hev, hb⟩ <;> rw [hg] at hb
    · left
      rw [abs_of_neg (sub_neg.2 hu)]
      linarith
    · right
      rw [← hb, show (m : ℚ) - 1 / 2 - m = -(1 / 2) by ring, abs_neg, abs_of_pos (by norm_num)]
      exact ⟨rfl, hev⟩

/-- Just below a single at the bottom of a binade, the value is nearest to `2^24` units of the
finer grid underneath, which carries to the single. -/
theorem nearestEven_carry (h : RoundsTo m q r) (hm : m = 2 ^ 23) (hq : -149 < q)
    (hu : r / 2 ^ q < m) : NearestEven (r / 2 ^ (q - 1)) (2 ^ 24) := by
  have hg : belowGap m q = 1 / 4 := if_pos ⟨hm, hq⟩
  have hscale : r / 2 ^ (q - 1) = 2 * (r / 2 ^ q) := by
    rw [zpow_sub₀ two_ne_zero, zpow_one]
    field_simp
  have hlow : (m : ℚ) - 1 / 4 ≤ r / 2 ^ q := by
    rcases h.below with hb | ⟨_, hb⟩ <;> rw [hg] at hb <;> linarith
  rw [hm] at hlow hu
  push_cast at hlow hu ⊢
  rw [hscale]
  by_cases hhalf : (2 : ℚ) ^ 23 - 1 / 4 = r / 2 ^ q
  · right
    rw [← hhalf]
    norm_num
  · left
    rw [abs_lt]
    constructor
    · have := lt_of_le_of_ne hlow hhalf
      linarith
    · linarith

end RoundsTo

/-! ### The single a value rounds to -/

/-- A canonical finite single has a significand below `2^24` and an exponent from `-149` to `104`,
subnormal only at `-149`. -/
theorem Canonical.finite_bounds {s : Sign} {m : ℕ} {q : ℤ} {hm : 0 < m}
    (hc : Canonical (.finite s m q hm)) :
    m < 2 ^ 24 ∧ -149 ≤ q ∧ q ≤ 104 ∧ (m < 2 ^ 23 → q = -149) := by
  cases hc with
  | subnormal _ _ _ h => exact ⟨by omega, le_rfl, by norm_num, fun _ => rfl⟩
  | normal _ _ _ _ hlo hhi helo hehi => exact ⟨by omega, helo, hehi, fun h => by omega⟩

section TargetExponent

variable {m : ℕ} {q : ℤ} {r : ℚ} {m' : ℕ} {e : ℤ} {acc : Accuracy}

/-- Just below a power of two, where the single carries up from the binade below, the first
shift of a value that rounds to it aims one binade down. -/
theorem targetExponent_of_roundsTo_carry (hr : RoundsTo m q r)
    (ha : Approximates m' (r / 2 ^ e) acc)
    (he : e ≤ Format.binary32.targetExponent (totalExponent m' e)) (hm23 : m = 2 ^ 23)
    (hq : -149 < q) (hu : r / 2 ^ q < m) :
    Format.binary32.targetExponent (totalExponent m' e) = q - 1 := by
  have hbelow : r < 2 ^ (q + 23) := by
    rw [← div_two_zpow_lt_iff]
    rw [hm23] at hu
    exact_mod_cast hu
  have hlow : 2 ^ (q + 23 - 1) ≤ r := by
    rw [show q + 23 - 1 = q + 22 by ring, ← le_div_two_zpow_iff]
    have := hr.below_le
    rw [hm23] at this
    push_cast at this
    linarith
  have h1 := targetExponent_le_of_lt ha he hbelow
  have h2 := targetExponent_le_of_le ha hlow
  rw [targetExponent_binary32 (q + 23)] at h1 h2
  omega

/-- Away from that carry, the first shift of a value that rounds to a single aims at the single's
own exponent. -/
theorem targetExponent_of_roundsTo {s : Sign} {hm : 0 < m} (hc : Canonical (.finite s m q hm))
    (hr : RoundsTo m q r) (ha : Approximates m' (r / 2 ^ e) acc)
    (he : e ≤ Format.binary32.targetExponent (totalExponent m' e))
    (hcarry : ¬(m = 2 ^ 23 ∧ -149 < q ∧ r / 2 ^ q < m)) :
    Format.binary32.targetExponent (totalExponent m' e) = q := by
  obtain ⟨hlt, hq, -, hsub⟩ := hc.finite_bounds
  -- the value is below the top of the single's binade, so the target is at most `q`
  have hup : r < 2 ^ (q + 24) := by
    have hm24 : (m : ℚ) + 1 ≤ 2 ^ 24 := by exact_mod_cast hlt
    rw [← div_two_zpow_lt_iff]
    linarith [hr.le_above]
  have hTle := targetExponent_le_of_lt ha he hup
  have hTmin : -149 ≤ Format.binary32.targetExponent (totalExponent m' e) := by
    rw [targetExponent_binary32 (totalExponent m' e)]
    exact le_max_right _ _
  rw [targetExponent_binary32 (q + 24)] at hTle
  apply le_antisymm (by omega)
  rcases eq_or_lt_of_le hq with hq149 | hq149
  · omega
  · -- a normal single: the value is at least the power of two at the bottom of its binade
    have hm23 : 2 ^ 23 ≤ m := by
      by_contra hsmall
      have := hsub (by omega)
      omega
    have hlow : 2 ^ (q + 24 - 1) ≤ r := by
      rw [show q + 24 - 1 = q + 23 by ring, ← le_div_two_zpow_iff]
      rcases eq_or_lt_of_le hm23 with hm23 | hm23
      · push Not at hcarry
        have := hcarry hm23.symm hq149
        rw [← hm23] at this
        exact_mod_cast this
      · have h1 : (2 : ℚ) ^ 23 + 1 ≤ m := by exact_mod_cast hm23
        linarith [hr.below_le]
    have := targetExponent_le_of_le ha hlow
    rw [targetExponent_binary32 (q + 24)] at this
    omega

end TargetExponent

/-- Rounding any value that rounds to a single, from a mantissa with at least as many bits as the
format keeps, gives that single. -/
theorem roundWithAccuracy_of_roundsTo {s : Sign} {m : ℕ} {q : ℤ} {hm : 0 < m}
    (hc : Canonical (.finite s m q hm)) {r : ℚ} (hr : RoundsTo m q r) {m' : ℕ} {e : ℤ}
    {acc : Accuracy} (ha : Approximates m' (r / 2 ^ e) acc)
    (he : e ≤ Format.binary32.targetExponent (totalExponent m' e)) (s' : Sign) :
    roundWithAccuracy .binary32 s' m' e acc = .finite s' m q hm := by
  obtain ⟨hlt, -, -, -⟩ := hc.finite_bounds
  obtain ⟨hT, hn⟩ := shiftToTargetExponent_nearestEven ha he
  rw [roundWithAccuracy_eq]
  by_cases hcarry : m = 2 ^ 23 ∧ -149 < q ∧ r / 2 ^ q < m
  · -- just below a power of two the rounding in the binade below carries up to it
    obtain ⟨hm23, hq', hu⟩ := hcarry
    rw [targetExponent_of_roundsTo_carry hr ha he hm23 hq' hu] at hn hT
    have hn24 := hn.unique (hr.nearestEven_carry hm23 hq' hu)
    subst hm23
    simp only [hn24, hT, sub_add_cancel]
    rfl
  · rw [targetExponent_of_roundsTo hc hr ha he hcarry] at hn hT
    have hnm := hn.unique (hr.nearestEven hcarry)
    simp only [hnm, hT, hm.ne', hlt, dite_false, if_true]

end Weight

end ConceptQuery
