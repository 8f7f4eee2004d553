import ConceptQuery.Proofs.Decimal.Interval
import ConceptQuery.Decimal.Literal

/-!
# Reading the text of a single back

The plain text of every single that is not NaN is a decimal literal that reads back as that
single, bit for bit (`Decimal.parse_renderFloat32`): the infinities as `inf` and `-inf`, the
zeros as `0` and `-0`, and every other value as the positional layout of its shortest decimal.

Reading the layout gives back the digits and the exponent of that decimal, up to moving zeros
between them (`Decimal.parse_layout_plain`). The decimal rounds to the single
(`Decimal.roundsTo_shortest`), so its value lies among the magnitudes of the finite singles
(`Weight.RoundsTo.range`); there it passes the range checks of the reading
(`Decimal.outOfRange_of_bounds`), and core's `ofScientific` rounds it to the single
(`Weight.ofScientific_eq_of_roundsTo`). A minus sign in front is a negation, which flips the
sign of the single and nothing else (`Weight.neg_ofModel_pack`).

The text is made of digits, a point, a minus sign and the letters of `inf`
(`Decimal.renderFloat32_chars`): no blank, no comma and no caret, so a field list can carry it.
-/

namespace ConceptQuery

namespace Weight

open Float.Model Float.Model.UnpackedFloat

/-! ### Singles from their parts -/

/-- Packing a canonical value and unpacking it gives the value back. -/
theorem model_unpack_pack {u : UnpackedFloat} (hc : Canonical u) :
    (Float32.Model.pack u).unpack = u := by
  simp only [Float32.Model.pack, Float32.Model.unpack, UInt32.toBitVec_ofBitVec]
  exact unpack_pack_of_canonical hc

/-- Unpacking a single and packing it again gives the single back. -/
theorem ofModel_pack_unpack (x : Float32) :
    Float32.ofModel (Float32.Model.pack x.toModel.unpack) = x := by
  rw [model_pack_unpack]

/-- Negating a single flips the sign of its parts. -/
theorem neg_ofModel_pack {u : UnpackedFloat} (hc : Canonical u) :
    -Float32.ofModel (Float32.Model.pack u) = Float32.ofModel (Float32.Model.pack u.neg) := by
  show Float32.ofModel (Float32.Model.pack (Float32.Model.pack u).unpack.neg) = _
  rw [model_unpack_pack hc]

/-- The sign of a finite single is free: the same mantissa and exponent make a single of the
other sign. -/
theorem Canonical.withSign {s : Sign} {m : ℕ} {q : ℤ} {hm : 0 < m}
    (hc : Canonical (.finite s m q hm)) (s' : Sign) : Canonical (.finite s' m q hm) := by
  cases hc with
  | subnormal _ _ _ hlt => exact .subnormal s' m hm hlt
  | normal _ _ _ _ hlo hhi helo hehi => exact .normal s' m q hm hlo hhi helo hehi

/-- Every value that rounds to a finite single lies from `2^-150` up to below `2^128`. -/
theorem RoundsTo.range {s : Sign} {m : ℕ} {q : ℤ} {hm : 0 < m} {r : ℚ}
    (hc : Canonical (.finite s m q hm)) (hr : RoundsTo m q r) :
    (2 : ℚ) ^ (-150 : ℤ) ≤ r ∧ r < 2 ^ 128 := by
  obtain ⟨hm24, hq, hq', -⟩ := Canonical.finite_bounds hc
  have hpos : (0 : ℚ) < 2 ^ q := zpow_pos two_pos q
  have hlo := (le_div_iff₀ hpos).1 hr.below_le
  have hhi := (div_le_iff₀ hpos).1 hr.le_above
  have h1 : (1 : ℚ) ≤ m := by exact_mod_cast hm
  have h24 : (m : ℚ) + 1 / 2 ≤ 2 ^ 24 - 1 / 2 := by
    have : (m : ℚ) + 1 ≤ 2 ^ 24 := by exact_mod_cast hm24
    linarith
  constructor
  · calc (2 : ℚ) ^ (-150 : ℤ) = 1 / 2 * 2 ^ (-149 : ℤ) := by norm_num
      _ ≤ 1 / 2 * 2 ^ q := by gcongr; norm_num
      _ ≤ ((m : ℚ) - 1 / 2) * 2 ^ q := by gcongr; linarith
      _ ≤ r := hlo
  · calc r ≤ ((m : ℚ) + 1 / 2) * 2 ^ q := hhi
      _ ≤ (2 ^ 24 - 1 / 2) * 2 ^ (104 : ℤ) := by gcongr; norm_num
      _ < 2 ^ 128 := by norm_num

/-- Core's infinity, `1 / 0`, as a packed value. -/
theorem one_div_zero_eq_pack :
    (1 : Float32) / 0 = Float32.ofModel (Float32.Model.pack (.infinity .positive)) := by decide

/-- The single zero is the packed positive zero. -/
theorem zero_eq_pack : (0 : Float32) = Float32.ofModel (Float32.Model.pack (.zero .positive)) := by
  decide

end Weight

namespace Decimal

/-! ### Digits -/

/-- The value of digits is the library's reading of digit characters in base ten. -/
theorem digitsValue_eq (cs : List Char) : digitsValue cs = Nat.ofDigitChars 10 cs 0 := rfl

/-- Reading the decimal digits of a number gives the number. -/
theorem digitsValue_toDigits (n : ℕ) : digitsValue (Nat.toDigits 10 n) = n :=
  Nat.ofDigitChars_ten_toDigits

/-- Digits written after others shift the others up by a power of ten. -/
theorem digitsValue_append (l r : List Char) :
    digitsValue (l ++ r) = 10 ^ r.length * digitsValue l + digitsValue r := by
  rw [digitsValue_eq, Nat.ofDigitChars_append, Nat.ofDigitChars_eq_ofDigitChars_zero]
  rfl

/-- Zeros alone are worth nothing. -/
theorem digitsValue_replicate_zero (z : ℕ) : digitsValue (List.replicate z '0') = 0 := by
  rw [digitsValue_eq, Nat.ofDigitChars_replicate_zero, Nat.mul_zero]

/-- The decimal digits of a number are digit characters. -/
theorem isDigit_of_mem_toDigits {n : ℕ} {c : Char} (h : c ∈ Nat.toDigits 10 n) : c.isDigit = true :=
  Nat.isDigit_of_mem_toDigits (by decide) (by decide) h

/-! ### Reading a number -/

/-- Splitting off the digits in front of a text that goes on with no digit. -/
theorem spanDigits_append {ds rest : List Char} (hds : ∀ c ∈ ds, c.isDigit = true)
    (hrest : ∀ c ∈ rest.head?, c.isDigit = false) : spanDigits (ds ++ rest) = (ds, rest) := by
  induction ds with
  | nil =>
    cases rest with
    | nil => rfl
    | cons c r =>
      have hc : c.isDigit = false := hrest c rfl
      simp [spanDigits, hc]
  | cons d ds ih =>
    have hd : d.isDigit = true := hds d List.mem_cons_self
    have ih' := ih fun c hc => hds c (List.mem_cons_of_mem d hc)
    simp only [spanDigits, Prod.mk.injEq] at ih' ⊢
    simp [hd, ih'.1, ih'.2]

/-- A list of digits is all prefix: nothing is left after it. -/
theorem spanDigits_of_digits {ds : List Char} (hds : ∀ c ∈ ds, c.isDigit = true) :
    spanDigits ds = (ds, []) := by
  simpa using @spanDigits_append ds [] hds (by simp)

/-- No exponent part reads as exponent zero. -/
theorem readExponent_nil : readExponent [] = some 0 := rfl

/-- Digits alone are an integer. -/
theorem readUnsigned_integer {ds : List Char} (hds : ∀ c ∈ ds, c.isDigit = true) (hne : ds ≠ []) :
    readUnsigned ds = some (digitsValue ds, 0) := by
  have hspan := spanDigits_of_digits hds
  have hempty : ds.isEmpty = false := List.isEmpty_eq_false_iff.2 hne
  simp [readUnsigned, hspan, hempty, readExponent_nil]

/-- Digits, a point and digits are the digits together, scaled down by the ones after the
point. -/
theorem readUnsigned_point {ws fs : List Char} (hws : ∀ c ∈ ws, c.isDigit = true)
    (hfs : ∀ c ∈ fs, c.isDigit = true) (hne : ws ≠ []) :
    readUnsigned (ws ++ '.' :: fs) = some (digitsValue (ws ++ fs), -(fs.length : ℤ)) := by
  have hspan : spanDigits (ws ++ '.' :: fs) = (ws, '.' :: fs) :=
    spanDigits_append hws (by simp)
  have hspan' := spanDigits_of_digits hfs
  have hempty : ws.isEmpty = false := List.isEmpty_eq_false_iff.2 hne
  simp [readUnsigned, hspan, hspan', hempty, readExponent_nil]

/-- Lowercasing leaves a digit as it is. -/
theorem toLower_of_isDigit {c : Char} (h : c.isDigit = true) : c.toLower = c := by
  simp only [Char.isDigit, Bool.and_eq_true, decide_eq_true_eq] at h
  unfold Char.toLower
  rw [dif_neg]
  -- a digit lies below the capital letters
  rintro ⟨hA, -⟩
  have h9 := h.2
  rw [ge_iff_le, UInt32.le_iff_toNat_le] at hA
  rw [UInt32.le_iff_toNat_le] at h9
  have hA' : 'A'.val.toNat = 65 := rfl
  have h9' : '9'.val.toNat = 57 := rfl
  omega

/-- A sign, then an unsigned number that starts with a digit: a number literal. -/
theorem parse_number {cs : List Char} (hc : ∀ c ∈ cs.head?, c.isDigit = true) {D : ℕ} {E : ℤ}
    (hread : readUnsigned cs = some (D, E)) (neg : Bool) :
    Literal.parse ((if neg then "-" else "") ++ String.ofList cs) = .ok (.number neg D E) := by
  cases cs with
  | nil => simp [readUnsigned, spanDigits] at hread
  | cons c rest =>
  have hc : c.isDigit = true := hc c rfl
  -- a digit starts no word and no sign
  have hword : ∀ t : String, t.toList.head?.any (fun a => a.isDigit) = false →
      (String.ofList ((c :: rest).map Char.toLower) == t) = false := by
    intro t ht
    refine beq_false_of_ne fun heq => ?_
    rw [← heq, String.toList_ofList, List.map_cons, toLower_of_isDigit hc] at ht
    simp [hc] at ht
  have hinf := hword "inf" rfl
  have hinfinity := hword "infinity" rfl
  have hnan := hword "nan" rfl
  unfold Literal.parse
  cases neg
  · have hplus : c ≠ '+' := fun h => by simp [h] at hc
    have hminus : c ≠ '-' := fun h => by simp [h] at hc
    simp at hinf hinfinity hnan
    simp [hplus, hminus, hinf, hinfinity, hnan, hread]
  · simp at hinf hinfinity hnan
    simp [hinf, hinfinity, hnan, hread]

/-- Digits, with a sign in front when negative, read as an integer literal. -/
theorem parse_digits {ds : List Char} (hds : ∀ c ∈ ds, c.isDigit = true) (hne : ds ≠ [])
    (neg : Bool) :
    Literal.parse ((if neg then "-" else "") ++ String.ofList ds) =
      .ok (.number neg (digitsValue ds) 0) :=
  parse_number (fun c hc => hds c (List.mem_of_mem_head? hc)) (readUnsigned_integer hds hne) neg

example : Literal.parse "-0" = .ok (.number true 0 0) := by rfl

/-- Digits, a point and digits, with a sign in front when negative, read as the digits together,
scaled down by the ones after the point. -/
theorem parse_point {ws fs : List Char} (hws : ∀ c ∈ ws, c.isDigit = true)
    (hfs : ∀ c ∈ fs, c.isDigit = true) (hne : ws ≠ []) (neg : Bool) :
    Literal.parse ((if neg then "-" else "") ++ String.ofList (ws ++ '.' :: fs)) =
      .ok (.number neg (digitsValue (ws ++ fs)) (-(fs.length : ℤ))) := by
  refine parse_number (fun c hc => ?_) (readUnsigned_point hws hfs hne) neg
  rw [List.head?_append_of_ne_nil _ hne] at hc
  exact hws c (List.mem_of_mem_head? hc)

example : Literal.parse "5." = .ok (.number false 5 0) := by rfl

/-- `zeros z` is the text of `z` zero characters. -/
theorem zeros_eq (z : ℕ) : zeros z = String.ofList (List.replicate z '0') := rfl

/-- A run of zeros holds only digit characters. -/
theorem isDigit_of_mem_replicate {z : ℕ} {c : Char} (h : c ∈ List.replicate z '0') :
    c.isDigit = true := by
  rw [(List.mem_replicate.1 h).2]
  rfl

/-- The text of a positive decimal laid out positionally with no `.0`, with a sign in front when
it is negative, reads as a number literal of the same value. -/
theorem parse_layout_plain {d : Dec} (hd : 0 < d.digits) (neg : Bool) :
    ∃ D E, Literal.parse ((if neg then "-" else "") ++ d.layout .plain) = .ok (.number neg D E) ∧
      (D : ℚ) * 10 ^ E = d.value := by
  have hd0 : (d.digits == 0) = false := by simpa using hd.ne'
  have hval : digitsValue (Nat.toDigits 10 d.digits) = d.digits := digitsValue_toDigits _
  have hds : ∀ c ∈ Nat.toDigits 10 d.digits, c.isDigit = true := fun _ => isDigit_of_mem_toDigits
  have hne : Nat.toDigits 10 d.digits ≠ [] := Nat.toDigits_ne_nil
  unfold Dec.layout
  simp only [hd0, Bool.false_eq_true, if_false, FloatStyle.plain, if_true]
  generalize Nat.toDigits 10 d.digits = ds at hval hds hne ⊢
  have hlen : 0 < ds.length := List.length_pos_iff.2 hne
  by_cases hexp : 0 ≤ d.exp
  · -- the digits, then as many zeros as the exponent
    rw [if_pos hexp, String.append_empty, zeros_eq, ← String.ofList_append]
    have hall : ∀ c ∈ ds ++ List.replicate d.exp.toNat '0', c.isDigit = true := by
      simp only [List.mem_append]
      rintro c (hc | hc)
      exacts [hds c hc, isDigit_of_mem_replicate hc]
    refine ⟨_, _, parse_digits hall (by simp [hne]) neg, ?_⟩
    rw [digitsValue_append, digitsValue_replicate_zero, hval, List.length_replicate, Dec.value]
    push_cast
    rw [add_zero, mul_one, ← zpow_natCast, Int.toNat_of_nonneg hexp, mul_comm]
  rw [if_neg hexp]
  by_cases hlead : 0 ≤ (ds.length : ℤ) + d.exp - 1
  · -- the point stands inside the digits
    rw [if_pos hlead]
    generalize hk : ((ds.length : ℤ) + d.exp - 1 + 1).toNat = k
    have hk1 : 0 < k := by omega
    have hkn : k < ds.length := by omega
    have hws : ∀ c ∈ ds.take k, c.isDigit = true := fun c hc => hds c (List.mem_of_mem_take hc)
    have hfs : ∀ c ∈ ds.drop k, c.isDigit = true := fun c hc => hds c (List.mem_of_mem_drop hc)
    have hwne : ds.take k ≠ [] := by simp [List.take_eq_nil_iff, hne, hk1.ne']
    have htext : String.ofList (ds.take k) ++ "." ++ String.ofList (ds.drop k) =
        String.ofList (ds.take k ++ '.' :: ds.drop k) := by
      rw [String.ofList_append, ← List.singleton_append, String.ofList_append, String.append_assoc]
    rw [htext]
    refine ⟨_, _, parse_point hws hfs hwne neg, ?_⟩
    rw [List.take_append_drop, hval, List.length_drop, Dec.value]
    congr 2
    omega
  · -- the digits stand after the point and some zeros
    rw [if_neg hlead]
    generalize hz : (-((ds.length : ℤ) + d.exp - 1) - 1).toNat = z
    have hfs : ∀ c ∈ List.replicate z '0' ++ ds, c.isDigit = true := by
      simp only [List.mem_append]
      rintro c (hc | hc)
      exacts [isDigit_of_mem_replicate hc, hds c hc]
    have htext : "0." ++ zeros z ++ String.ofList ds =
        String.ofList (['0'] ++ '.' :: (List.replicate z '0' ++ ds)) := by
      have h0 : "0." = String.ofList ['0', '.'] := by decide
      rw [zeros_eq, String.append_assoc, ← String.ofList_append, h0, ← String.ofList_append]
      rfl
    rw [htext]
    refine ⟨_, _, parse_point (by simp) hfs (by simp) neg, ?_⟩
    rw [List.singleton_append, ← List.cons_append, ← List.replicate_succ, digitsValue_append,
      digitsValue_replicate_zero, Nat.mul_zero, Nat.zero_add, hval, List.length_append,
      List.length_replicate, Dec.value]
    push_cast
    congr 2
    omega

example : Dec.layout .plain ⟨30000002, -18⟩ = "0.000000000030000002" := by decide +kernel

/-- The plain layout of a decimal is digits and at most a point. -/
theorem layout_plain_chars (d : Dec) :
    ∀ c ∈ (d.layout .plain).toList, c.isDigit = true ∨ c = '.' := by
  have hds : ∀ c ∈ Nat.toDigits 10 d.digits, c.isDigit = true := fun _ => isDigit_of_mem_toDigits
  unfold Dec.layout
  simp only [FloatStyle.plain, if_true, Bool.false_eq_true, if_false]
  split_ifs
  all_goals
    intro c hc
    simp only [String.toList_append, String.toList_ofList, zeros_eq, List.mem_append,
      List.mem_replicate, show "0".toList = ['0'] from rfl, show "".toList = [] from rfl,
      show ".".toList = ['.'] from rfl, show "0.".toList = ['0', '.'] from rfl,
      List.mem_cons, List.not_mem_nil, or_false] at hc
  · exact .inl (hc ▸ rfl)
  · rcases hc with hc | ⟨-, rfl⟩
    exacts [.inl (hds c hc), .inl rfl]
  · rcases hc with (hc | rfl) | hc
    exacts [.inl (hds c (List.mem_of_mem_take hc)), .inr rfl,
      .inl (hds c (List.mem_of_mem_drop hc))]
  · rcases hc with ((rfl | rfl) | ⟨-, rfl⟩) | hc
    exacts [.inl rfl, .inr rfl, .inl rfl, .inl (hds c hc)]

/-! ### Digit counts -/

/-- Every number has at least one decimal digit. -/
theorem digitCount_pos (D : ℕ) : 0 < digitCount D := Nat.length_toDigits_pos

/-- A number lies below ten to the power of its digit count. -/
theorem lt_ten_pow_digitCount (D : ℕ) : D < 10 ^ digitCount D :=
  (Nat.length_toDigits_le_iff (by norm_num) (digitCount_pos D)).1 le_rfl

/-- A positive number is at least ten to the power of one less than its digit count. -/
theorem ten_pow_digitCount_le {D : ℕ} (hD : 0 < D) : 10 ^ (digitCount D - 1) ≤ D := by
  rcases Nat.eq_zero_or_pos (digitCount D - 1) with h | h
  · rw [h, pow_zero]
    exact hD
  · by_contra hlt
    have hle : digitCount D ≤ digitCount D - 1 :=
      (Nat.length_toDigits_le_iff (by norm_num) h).2 (Nat.lt_of_not_le hlt)
    omega

/-- A positive number has no more decimal digits than binary ones. -/
theorem digitCount_le_log2 {D : ℕ} (hD : 0 < D) : digitCount D ≤ D.log2 + 1 := by
  have h2 : 2 ^ (digitCount D - 1) ≤ D :=
    (Nat.pow_le_pow_left (by norm_num) _).trans (ten_pow_digitCount_le hD)
  have hlog := (Nat.le_log2 hD.ne').2 h2
  omega

/-- A positive `D * 10^E` lies from the power of ten of its leading digit up to the next one. -/
theorem value_bounds_digitCount {D : ℕ} (hD : 0 < D) (E : ℤ) :
    (10 : ℚ) ^ ((digitCount D : ℤ) - 1 + E) ≤ D * 10 ^ E ∧
      (D : ℚ) * 10 ^ E < 10 ^ ((digitCount D : ℤ) + E) := by
  have hpos : (0 : ℚ) < 10 ^ E := zpow_pos (by norm_num) E
  have hsub : (digitCount D : ℤ) - 1 = ((digitCount D - 1 : ℕ) : ℤ) := by
    have := digitCount_pos D
    omega
  rw [zpow_add₀ (by norm_num), zpow_add₀ (by norm_num), hsub, zpow_natCast, zpow_natCast]
  constructor
  · exact mul_le_mul_of_nonneg_right (by exact_mod_cast ten_pow_digitCount_le hD) hpos.le
  · exact mul_lt_mul_of_pos_right (by exact_mod_cast lt_ten_pow_digitCount D) hpos

/-- A positive literal whose value lies among the magnitudes of the finite singles passes the
range checks of the reading, and its exponent passes the safety checks of core's
`ofScientific`. -/
theorem outOfRange_of_bounds {D : ℕ} {E : ℤ} (hD : 0 < D)
    (hlo : (2 : ℚ) ^ (-150 : ℤ) ≤ D * 10 ^ E) (hhi : (D : ℚ) * 10 ^ E < 2 ^ 128) :
    outOfRange D E 38 (-47) = none ∧ E ≤ 256 ∧ -(256 + (D.log2 : ℤ)) ≤ E := by
  obtain ⟨hl, hu⟩ := value_bounds_digitCount hD E
  -- the power of ten of the leading digit is at most the value, below `2^128 < 10^39`
  have h39 : (digitCount D : ℤ) - 1 + E < 39 := by
    refine (zpow_lt_zpow_iff_right₀ (by norm_num : (1 : ℚ) < 10)).1 ?_
    calc (10 : ℚ) ^ ((digitCount D : ℤ) - 1 + E) ≤ D * 10 ^ E := hl
      _ < 2 ^ 128 := hhi
      _ < 10 ^ (39 : ℤ) := by norm_num
  -- the next power of ten is above the value, at least `2^-150 > 10^-46`
  have h46 : -46 < (digitCount D : ℤ) + E := by
    refine (zpow_lt_zpow_iff_right₀ (by norm_num : (1 : ℚ) < 10)).1 ?_
    calc (10 : ℚ) ^ (-46 : ℤ) < 2 ^ (-150 : ℤ) := by norm_num
      _ ≤ D * 10 ^ E := hlo
      _ < 10 ^ ((digitCount D : ℤ) + E) := hu
  have hc := digitCount_pos D
  have hlog := digitCount_le_log2 hD
  refine ⟨?_, by omega, by omega⟩
  simp only [outOfRange]
  rw [if_neg (by omega), if_neg (by omega)]

open Float.Model Float.Model.UnpackedFloat Weight

/-! ### Literals read as singles -/

/-- An infinity literal reads as the packed infinity of its sign. -/
theorem toFloat32_infinity (s : Sign) :
    (Literal.infinity (s == .negative)).toFloat32 =
      Float32.ofModel (Float32.Model.pack (.infinity s)) := by
  cases s with
  | positive => exact one_div_zero_eq_pack
  | negative =>
    show -((1 : Float32) / 0) = _
    rw [one_div_zero_eq_pack, neg_ofModel_pack (.infinity .positive)]
    rfl

/-- A zero literal reads as the packed zero of its sign. -/
theorem toFloat32_zero (s : Sign) :
    (Literal.number (s == .negative) 0 0).toFloat32 =
      Float32.ofModel (Float32.Model.pack (.zero s)) := by
  cases s with
  | positive => exact zero_eq_pack
  | negative =>
    show -(0 : Float32) = _
    rw [zero_eq_pack, neg_ofModel_pack (.zero .positive)]
    rfl

/-- A number literal whose value rounds to a finite single reads as that single, in either
sign: the range checks let it through and core's `ofScientific` rounds it correctly. -/
theorem toFloat32_number {s : Sign} {m : ℕ} {q : ℤ} {hm : 0 < m}
    (hc : Canonical (.finite s m q hm)) {D : ℕ} {E : ℤ} (hD : 0 < D)
    (hr : RoundsTo m q (D * 10 ^ E)) :
    (Literal.number (s == .negative) D E).toFloat32 =
      Float32.ofModel (Float32.Model.pack (.finite s m q hm)) := by
  have hc' := hc.withSign .positive
  obtain ⟨hlo, hhi⟩ := hr.range hc
  obtain ⟨hout, hE, hE'⟩ := outOfRange_of_bounds hD hlo hhi
  have hD0 : (D == 0) = false := by simpa using hD.ne'
  have hmag := ofScientific_eq_of_roundsTo hD hE hE' hc' hr
  simp only [Literal.toFloat32, hD0, hout, Bool.false_eq_true, if_false, hmag]
  cases s with
  | positive => rfl
  | negative =>
    rw [if_pos (show (Sign.negative == Sign.negative) = true from rfl), neg_ofModel_pack hc']
    rfl

/-! ### The text of a single read back -/

/-- A finite single is written as its sign, then the plain layout of its shortest decimal. -/
theorem render_ofUnpacked_finite (s : Sign) {m : ℕ} (q : ℤ) (hm : 0 < m) :
    (FloatParts.ofUnpacked (.finite s m q hm)).render .plain =
      (if s == .negative then "-" else "") ++
        (Binary.shortest ⟨m, q, decide (m = 2 ^ 23 ∧ -149 < q)⟩ .up).layout .plain := by
  have hm0 : (m == 0) = false := by simpa using hm.ne'
  simp only [FloatParts.ofUnpacked, FloatParts.render, hm0, Bool.false_eq_true, if_false]
  rfl

/-- A zero is written as its sign, then `0`. -/
theorem render_ofUnpacked_zero (s : Sign) :
    (FloatParts.ofUnpacked (.zero s)).render .plain =
      (if s == .negative then "-" else "") ++ String.ofList ['0'] := rfl

/-- A zero as written, with its sign, reads as a zero literal. -/
theorem parse_zero (neg : Bool) :
    Literal.parse ((if neg then "-" else "") ++ String.ofList ['0']) = .ok (.number neg 0 0) :=
  parse_digits (by simp) (by simp) neg

/-- The text of a canonical finite single reads back as a literal of that single. -/
theorem parse_render_finite {s : Sign} {m : ℕ} {q : ℤ} {hm : 0 < m}
    (hc : Canonical (.finite s m q hm)) :
    ∃ lit, Literal.parse ((FloatParts.ofUnpacked (.finite s m q hm)).render .plain) = .ok lit ∧
      lit.toFloat32 = Float32.ofModel (Float32.Model.pack (.finite s m q hm)) := by
  rw [render_ofUnpacked_finite]
  have hr := roundsTo_shortest (q := q) hm .up
  generalize Binary.shortest ⟨m, q, decide (m = 2 ^ 23 ∧ -149 < q)⟩ .up = d at hr
  -- the shortest decimal is positive, as the value it stands for is
  have hpos : (0 : ℚ) < d.value := lt_of_lt_of_le (by positivity) (hr.range hc).1
  have hd : 0 < d.digits := by
    by_contra h0
    have hz : d.digits = 0 := by omega
    rw [Dec.value, hz] at hpos
    simp at hpos
  obtain ⟨D, E, hparse, hval⟩ := parse_layout_plain hd (s == .negative)
  have hD : 0 < D := by
    by_contra h0
    have hz : D = 0 := by omega
    rw [← hval, hz] at hpos
    simp at hpos
  exact ⟨_, hparse, toFloat32_number hc hD (hval ▸ hr)⟩

/-- The plain text of a single's parts, NaN apart, reads back as the single they pack to. -/
theorem parse_render_ofUnpacked {u : UnpackedFloat} (hc : Canonical u) (hu : u.isNaN = false) :
    ∃ lit, Literal.parse ((FloatParts.ofUnpacked u).render .plain) = .ok lit ∧
      lit.toFloat32 = Float32.ofModel (Float32.Model.pack u) := by
  cases u with
  | notANumber => cases hu
  | infinity s => exact ⟨_, by cases s <;> rfl, toFloat32_infinity s⟩
  | zero s => exact ⟨_, (render_ofUnpacked_zero s).symm ▸ parse_zero _, toFloat32_zero s⟩
  | finite s m q hm => exact parse_render_finite hc

/-- The plain text of every single that is not NaN reads back as that single, bit for bit: the
infinities, both zeros, the subnormals and every other finite value. -/
theorem parse_renderFloat32 (x : Float32) (hx : x.isNaN = false) :
    ∃ lit, Literal.parse (renderFloat32 .plain x) = .ok lit ∧ lit.toFloat32 = x := by
  obtain ⟨lit, hparse, hread⟩ := parse_render_ofUnpacked (canonical_unpack _) hx
  refine ⟨lit, ?_, hread.trans (ofModel_pack_unpack x)⟩
  rw [renderFloat32, ofFloat32_eq_ofUnpacked]
  exact hparse

/-- The sign in front of a number is the minus character. -/
theorem mem_sign {neg : Bool} {c : Char} (hc : c ∈ (if neg then "-" else "").toList) : c = '-' := by
  cases neg <;> simp_all

/-- The plain text of a single that is not NaN is made of digits, a point, a minus sign and the
letters of inf. -/
theorem renderFloat32_chars {x : Float32} (hx : x.isNaN = false) :
    ∀ c ∈ (renderFloat32 .plain x).toList, c.isDigit = true ∨ c ∈ ['.', '-', 'i', 'n', 'f'] := by
  have hu : x.toModel.unpack.isNaN = false := hx
  rw [renderFloat32, ofFloat32_eq_ofUnpacked]
  generalize x.toModel.unpack = u at hu
  intro c hc
  cases u with
  | notANumber => cases hu
  | infinity s =>
    right
    cases s <;> simp [FloatParts.ofUnpacked, FloatParts.render, FloatStyle.plain] at hc <;> simp [hc]
  | zero s =>
    rw [render_ofUnpacked_zero, String.toList_append, List.mem_append] at hc
    rcases hc with hc | hc
    · exact .inr (by simp [mem_sign hc])
    · exact .inl (by simp_all)
  | finite s m q hm =>
    rw [render_ofUnpacked_finite, String.toList_append, List.mem_append] at hc
    rcases hc with hc | hc
    · exact .inr (by simp [mem_sign hc])
    · rcases layout_plain_chars _ c hc with h | rfl
      exacts [.inl h, .inr (by simp)]


end Decimal

end ConceptQuery
