import InferenceBench.Proofs.Numeral.Scale
import InferenceBench.Proofs.Numeral.Rounding

/-! # The values of computed numbers

A mantissa that is too long is cut bit by bit, and the bits that fall off are remembered as far as
they decide which way to round. Cut and rounded, it is the integer nearest to the quotient. So a
computed number lies within half a step of the exact one, where 53 bits of the exact one reach down
to the step, and it is exact where 53 bits are enough. As an integer it has its whole part.
-/

namespace InferenceBench.Numeral

open Float.Model Float.Model.UnpackedFloat

/-! ## Cutting bits off -/

theorem roundHalfEven_near {numerator denominator : Nat} (positive : 0 < denominator) :
    2 * numerator ≤ 2 * (roundHalfEven numerator denominator * denominator) + denominator ∧
      2 * (roundHalfEven numerator denominator * denominator) ≤ 2 * numerator + denominator := by
  have split := Nat.div_add_mod numerator denominator
  have rest := Nat.mod_lt numerator positive
  simp only [roundHalfEven]
  generalize numerator / denominator = quotient at *
  generalize numerator % denominator = remainder at *
  rw [Nat.mul_comm] at split
  split_ifs with below above
  · omega
  · rw [Nat.add_mul]
    omega
  · obtain even | odd := Nat.mod_two_eq_zero_or_one quotient
    · rw [even, Nat.add_zero]
      omega
    · rw [odd, Nat.add_mul]
      omega

theorem roundHalfEven_one (n : Nat) : roundHalfEven n 1 = n := by
  simp [roundHalfEven, Nat.mod_one]

/-- A mantissa that has lost bits knows the last of them, and whether another one was set. -/
theorem shift_exact (mantissa count : Nat) :
    ExtendedMantissa.ofMantissaAndAccuracy mantissa .exact >>> (count + 1) =
      ⟨mantissa / 2 ^ (count + 1), mantissa / 2 ^ count % 2 != 0, mantissa % 2 ^ count != 0⟩ := by
  induction count with
  | zero =>
      change ExtendedMantissa.shiftRightOne ⟨mantissa, false, false⟩ = _
      simp [ExtendedMantissa.shiftRightOne, Nat.mod_one]
  | succ count ih =>
      change ExtendedMantissa.shiftRightOne
        (ExtendedMantissa.ofMantissaAndAccuracy mantissa .exact >>> (count + 1)) = _
      have longer : mantissa % 2 ^ (count + 1) =
          mantissa % 2 ^ count + 2 ^ count * (mantissa / 2 ^ count % 2) := Nat.mod_pow_succ
      rw [ih, ExtendedMantissa.shiftRightOne, ExtendedMantissa.mk.injEq]
      refine ⟨?_, rfl, ?_⟩
      · rw [Nat.div_div_eq_div_mul, ← Nat.pow_succ]
      · rw [Bool.eq_iff_iff]
        simp [longer, imp_iff_not_or, or_comm]

theorem roundedMantissa_eq (whole : Nat) (last others : Bool) :
    (ExtendedMantissa.mk whole last others).roundedMantissa =
      if last then if others then whole + 1 else whole + whole % 2 else whole := by
  cases last <;> cases others <;> rfl

theorem roundedMantissa_shift (mantissa count : Nat) :
    (ExtendedMantissa.ofMantissaAndAccuracy mantissa .exact >>> count).roundedMantissa =
      roundHalfEven mantissa (2 ^ count) := by
  cases count with
  | zero =>
      rw [Nat.pow_zero, roundHalfEven_one]
      rfl
  | succ count =>
      have rest := Nat.mod_lt mantissa (Nat.two_pow_pos count)
      have longer : mantissa % 2 ^ (count + 1) =
          mantissa % 2 ^ count + 2 ^ count * (mantissa / 2 ^ count % 2) := Nat.mod_pow_succ
      have bit := Nat.mod_two_eq_zero_or_one (mantissa / 2 ^ count)
      rw [shift_exact, roundedMantissa_eq, roundHalfEven, longer, Nat.pow_succ]
      generalize mantissa / (2 ^ count * 2) = whole
      generalize mantissa / 2 ^ count % 2 = last at bit ⊢
      generalize mantissa % 2 ^ count = others at rest ⊢
      generalize 2 ^ count = power at rest ⊢
      obtain rfl | rfl := bit
      · change whole = _
        rw [if_pos (by omega)]
      · obtain rfl | some := Nat.eq_zero_or_pos others
        · change whole + whole % 2 = _
          rw [if_neg (by omega), if_neg (by omega)]
        · have set : (others != 0) = true := bne_iff_ne.mpr some.ne'
          have above : power * 2 < 2 * (others + power * 1) := by omega
          rw [set, if_neg above.not_gt, if_pos above]
          rfl

/-! ## Values -/

/-- The number that a finite one stands for. -/
def valueOf : UnpackedFloat → ℚ
  | .finite .positive mantissa exponent _ => mantissa * 2 ^ exponent
  | .finite .negative mantissa exponent _ => -(mantissa * 2 ^ exponent)
  | .zero _ | .infinity _ | .notANumber => 0

theorem Scaled.valueOf_eq {exponent : Int} {u : UnpackedFloat}
    (scaled : Scaled exponent exponent u) :
    ∃ stored : ℕ, 2 ^ 52 ≤ stored ∧ stored < 2 ^ 53 ∧ valueOf u = stored * 2 ^ exponent := by
  obtain @⟨stored, other, positive, full, low, high⟩ := scaled
  obtain rfl := le_antisymm low high
  obtain ⟨atLeast, below⟩ := bounds_of_log2 (by decide) full
  exact ⟨stored, atLeast, below, rfl⟩

/-- The number is a nearest one among the multiples of the step that 53 bits of the exact one reach
down to. -/
inductive RoundsTo (exact : ℚ) : ℚ → Prop where
  | intro (step : ℤ) (count : ℕ) (low : 2 ^ 52 * 2 ^ step ≤ exact)
      (high : exact < 2 ^ 53 * 2 ^ step) (near : |count * 2 ^ step - exact| ≤ 2 ^ step / 2) :
      RoundsTo exact (count * 2 ^ step)

theorem valueOf_roundWithAccuracy {mantissa : Nat} {exponent : Int}
    (full : 52 ≤ mantissa.log2) (least : -1074 ≤ mantissa.log2 + exponent - 52) :
    valueOf (roundWithAccuracy .binary64 .positive mantissa exponent .exact) =
      roundHalfEven mantissa (2 ^ (mantissa.log2 - 52)) *
        2 ^ (exponent + (mantissa.log2 - 52 : ℕ)) := by
  have cut : (max (mantissa.log2 + exponent - 52) (-1074) - exponent).toNat =
      mantissa.log2 - 52 := by omega
  have step : mantissa.log2 + exponent - 52 = exponent + (mantissa.log2 - 52 : ℕ) := by omega
  obtain ⟨rounded, is, low, high, positive, same⟩ := roundWithAccuracy_eq .exact full least
  rw [shiftToTargetExponent, shiftToExponent, targetExponent_eq, cut] at is
  simp only [roundedMantissa_shift] at is
  rw [same, is, step, valueOf]
  generalize exponent + ((mantissa.log2 - 52 : ℕ) : ℤ) = lower
  obtain below | rfl := high.lt_or_eq
  · have bits : rounded.log2 = 52 := log2_of_bounds low below
    simp [bits]
  · have carried : ((2 ^ 53 : ℕ).log2 : ℤ) + lower - 52 = lower + 1 := by
      rw [Nat.log2_two_pow]
      omega
    rw [carried, Nat.log2_two_pow, two_zpow_succ]
    push_cast
    ring

theorem roundsTo_roundWithAccuracy {mantissa : Nat} {exponent : Int}
    (full : 52 ≤ mantissa.log2) (least : -1074 ≤ mantissa.log2 + exponent - 52) :
    RoundsTo (mantissa * 2 ^ exponent)
      (valueOf (roundWithAccuracy .binary64 .positive mantissa exponent .exact)) := by
  obtain ⟨count, bits⟩ := Nat.exists_eq_add_of_le full
  obtain ⟨low, high⟩ := bounds_of_log2 (by omega) bits
  obtain ⟨less, more⟩ := @roundHalfEven_near mantissa (2 ^ count) (by positivity)
  have unit := two_zpow_pos exponent
  have step : (2 : ℚ) ^ (exponent + count) = 2 ^ count * 2 ^ exponent := by
    rw [zpow_add₀ (by norm_num), zpow_natCast, mul_comm]
  rw [valueOf_roundWithAccuracy full least, show mantissa.log2 - 52 = count by omega]
  generalize roundHalfEven mantissa (2 ^ count) = rounded at less more ⊢
  refine .intro _ _ ?_ ?_ ?_
  · rw [step, ← mul_assoc, ← pow_add]
    gcongr
    exact_mod_cast low
  · rw [step, ← mul_assoc, ← pow_add]
    gcongr
    rw [Nat.add_right_comm] at high
    exact_mod_cast high
  · have less : 2 * (mantissa : ℚ) ≤ 2 * (rounded * 2 ^ count) + 2 ^ count := by exact_mod_cast less
    have more : 2 * (rounded * 2 ^ count : ℚ) ≤ 2 * mantissa + 2 ^ count := by exact_mod_cast more
    rw [step, abs_le]
    constructor <;> nlinarith

theorem roundsTo_round {mantissa : Nat} {exponent : Int} (positive : 0 < mantissa)
    (least : -1074 ≤ mantissa.log2 + exponent - 52) :
    RoundsTo (mantissa * 2 ^ exponent)
      (valueOf (UnpackedFloat.round .binary64 .positive mantissa exponent)) := by
  have wide : (mantissa <<< (52 - mantissa.log2)).log2 =
      mantissa.log2 + (52 - mantissa.log2) := by
    rw [Nat.shiftLeft_eq, log2_mul_pow positive]
  have shift : (exponent - max (mantissa.log2 + exponent - 52) (-1074)).toNat =
      52 - mantissa.log2 := by omega
  have same : (mantissa : ℚ) * 2 ^ exponent = (mantissa <<< (52 - mantissa.log2) : ℕ) *
      2 ^ (exponent - (52 - mantissa.log2 : ℕ)) := by
    rw [Nat.shiftLeft_eq, zpow_sub₀ (by norm_num), zpow_natCast]
    push_cast
    field_simp
  simp only [UnpackedFloat.round, decreaseExponent, targetExponent_eq, shift]
  rw [same]
  exact roundsTo_roundWithAccuracy (by omega) (by omega)

theorem roundsTo_mul {a b c d : Int} {u v : UnpackedFloat} (left : Scaled a b u)
    (right : Scaled c d v) (least : -1074 ≤ a + c + 52) :
    RoundsTo (valueOf u * valueOf v) (valueOf (UnpackedFloat.mul .binary64 u v)) := by
  obtain @⟨m, e, _, full, low, high⟩ := left
  obtain @⟨n, f, _, full', low', high'⟩ := right
  have product := Nat.mul_le_mul (bounds_of_log2 (by decide) full).1
    (bounds_of_log2 (by decide) full').1
  have bits : 104 ≤ (m * n).log2 := by
    rw [Nat.le_log2 (by omega)]
    omega
  have same : (m * 2 ^ e * (n * 2 ^ f) : ℚ) = (m * n : ℕ) * 2 ^ (e + f) := by
    rw [zpow_add₀ (by norm_num)]
    push_cast
    ring
  simp only [valueOf]
  rw [same]
  exact roundsTo_roundWithAccuracy (by omega) (by omega)

theorem whole_on_grid (n : ℕ) {step : ℤ} (fine : step ≤ 0) :
    ∃ count : ℕ, (n : ℚ) = count * 2 ^ step := by
  obtain ⟨places, rfl⟩ : ∃ places : ℕ, step = -places := ⟨(-step).toNat, by omega⟩
  refine ⟨n * 2 ^ places, ?_⟩
  rw [zpow_neg, zpow_natCast]
  push_cast
  field_simp

namespace RoundsTo

variable {exact z : ℚ} {n : ℕ}

theorem step_nonpos {step : ℤ} (low : 2 ^ 52 * 2 ^ step ≤ exact) (below : exact < 2 ^ 53) :
    step ≤ 0 := by
  have lt : (2 : ℚ) ^ step < 2 ^ (1 : ℤ) := by
    rw [zpow_one]
    linarith
  have := (zpow_lt_zpow_iff_right₀ (by norm_num)).mp lt
  omega

theorem eq_of_whole (rounds : RoundsTo n z) (below : n < 2 ^ 53) : z = n := by
  obtain @⟨step, count, low, high, near⟩ := rounds
  have fine := step_nonpos low (by exact_mod_cast below)
  obtain ⟨whole, same⟩ := whole_on_grid n fine
  have unit := two_zpow_pos step
  rw [same, ← sub_mul, abs_mul, abs_of_pos unit] at near
  have close : |((count - whole : ℤ) : ℚ)| < 1 := by
    push_cast
    nlinarith
  have equal : (count : ℤ) - whole = 0 := Int.abs_lt_one_iff.mp (by exact_mod_cast close)
  obtain rfl : count = whole := by omega
  exact same.symm

/-- A number that is below a whole one by a rounding error at most is not rounded below it. -/
theorem whole_le (rounds : RoundsTo exact z) (small : exact < 2 ^ 53)
    (near : n ≤ exact + exact / 2 ^ 54) : n ≤ z := by
  obtain @⟨step, count, low, high, within⟩ := rounds
  obtain ⟨whole, same⟩ := whole_on_grid n (step_nonpos low small)
  have unit := two_zpow_pos step
  have above : (whole - 1 : ℚ) * 2 ^ step < count * 2 ^ step := by
    have := (abs_le.mp within).1
    rw [same] at near
    linarith
  have atLeast : whole ≤ count := by
    have : (whole - 1 : ℚ) < count := lt_of_mul_lt_mul_right above unit.le
    have : (whole : ℚ) < (count + 1 : ℕ) := by
      push_cast
      linarith
    exact Nat.lt_succ_iff.mp (by exact_mod_cast this)
  rw [same]
  gcongr

theorem le_add (rounds : RoundsTo exact z) : z ≤ exact + exact / 2 ^ 53 := by
  obtain @⟨step, count, low, high, within⟩ := rounds
  have := (abs_le.mp within).2
  linarith

end RoundsTo

/-- A number whose steps are not above one is cut to its whole part. -/
theorem toUInt64_eq {low : Int} {u : UnpackedFloat} (scaled : Scaled low 0 u) :
    u.toUInt64.toNat = ⌊valueOf u⌋₊ := by
  obtain @⟨m, e, _, full, low, high⟩ := scaled
  obtain ⟨places, rfl⟩ : ∃ places : ℕ, e = -places := ⟨(-e).toNat, by omega⟩
  have none : (-(places : ℤ) - 0).toNat = 0 := by omega
  have all : (0 - (-(places : ℤ) - (0 : ℕ))).toNat = places := by omega
  have whole : (roundToInt .positive m (-places)).toNat = m / 2 ^ places := by
    simp only [roundToInt, decreaseExponent, shiftToExponent, none, all, shift_mantissa]
    exact Int.toNat_natCast _
  have fits : m / 2 ^ places < UInt64.size := by
    have := (bounds_of_log2 (by decide) full).2
    have := Nat.div_le_self m (2 ^ places)
    unfold UInt64.size
    omega
  have value : (m * 2 ^ (-places : ℤ) : ℚ) = m / (2 ^ places : ℕ) := by
    rw [zpow_neg, zpow_natCast]
    push_cast
    rfl
  rw [UnpackedFloat.toUInt64, toInt, whole, UInt64.ofNatClamp, dif_pos fits, valueOf, value,
    Nat.floor_div_eq_div]
  rfl

/-! ## Doubles -/

theorem roundsTo_mul_double {a b c d : Int} {x y : Float} (left : Scaled a b x.toModel.unpack)
    (right : Scaled c d y.toModel.unpack) (least : -1074 ≤ a + c + 52)
    (most : b + d + 54 ≤ largestExponent) :
    RoundsTo (valueOf x.toModel.unpack * valueOf y.toModel.unpack)
      (valueOf (x * y).toModel.unpack) := by
  have product : (x * y).toModel.unpack =
      UnpackedFloat.mul .binary64 x.toModel.unpack y.toModel.unpack :=
    unpacked_pack (scaled_mul left right least) least most
  rw [product]
  exact roundsTo_mul left right least

theorem valueOf_ofNat {n : Nat} (positive : 0 < n) (below : n < 2 ^ 53) :
    valueOf (Float.ofNat n).toModel.unpack = n := by
  have bits := log2_lt_of_lt below (by decide)
  have first : valueOf (n.toUInt64.toFloat).toModel.unpack = n := by
    have rounded := @roundsTo_round n 0 positive (by omega)
    rw [zpow_zero, mul_one] at rounded
    rw [toFloat_unpacked positive below, unpacked_pack (scaled_round positive (by omega))
      (by omega) (by unfold largestExponent; omega)]
    exact rounded.eq_of_whole below
  have one : valueOf (Float.ofBits 0x3FF0000000000000).toModel.unpack = 1 := by
    change ((2 ^ 52 : ℕ) : ℚ) * 2 ^ (-52 : ℤ) = 1
    norm_num
  have rounded := @roundsTo_mul_double _ _ _ _ n.toUInt64.toFloat (.ofBits 0x3FF0000000000000)
    (scaled_toFloat positive below) scaled_one (by omega) (by unfold largestExponent; omega)
  rw [first, one, mul_one] at rounded
  rw [ofNat_of_lt below]
  exact rounded.eq_of_whole below

end InferenceBench.Numeral
