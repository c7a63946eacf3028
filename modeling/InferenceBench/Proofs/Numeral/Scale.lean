import InferenceBench.Proofs.Numeral.Double

/-! # The scale of computed numbers

A number with a full mantissa is given up to a factor of two by its exponent. Products, quotients
and sums of such numbers have a full mantissa again as long as the exponents stay far from the ends
of the format, and their exponents follow from those of the operands. The bounds are loose, which is
enough to see that a figure is positive and finite.
-/

namespace InferenceBench.Numeral

open Float.Model Float.Model.UnpackedFloat

/-- A positive number with a full mantissa, and an exponent between the bounds. -/
inductive Scaled (low high : Int) : UnpackedFloat → Prop where
  | intro {mantissa : Nat} {exponent : Int} (positive : 0 < mantissa) (full : mantissa.log2 = 52)
      (low_le : low ≤ exponent) (le_high : exponent ≤ high) :
      Scaled low high (.finite .positive mantissa exponent positive)

section Scaled

variable {low high : Int} {u : UnpackedFloat}

theorem Scaled.mono {lower higher : Int} (scaled : Scaled low high u) (le : lower ≤ low)
    (ge : high ≤ higher) : Scaled lower higher u := by
  cases scaled with
  | intro positive full low_le le_high => exact .intro positive full (by omega) (by omega)

theorem Scaled.within (scaled : Scaled low high u) : Within high u := by
  cases scaled with
  | intro positive full low_le le_high => exact .finite positive le_high

theorem Scaled.pos (scaled : Scaled low high u) :
    UnpackedFloat.lt (.zero .positive) u = true := by
  cases scaled
  rfl

theorem Scaled.add_zero (scaled : Scaled low high u) :
    UnpackedFloat.add .binary64 u (.zero .positive) = u := by
  cases scaled
  rfl

theorem Scaled.zero_add (scaled : Scaled low high u) :
    UnpackedFloat.add .binary64 (.zero .positive) u = u := by
  cases scaled
  rfl

theorem Scaled.zero_div (scaled : Scaled low high u) :
    UnpackedFloat.div .binary64 (.zero .positive) u = .zero .positive := by
  cases scaled
  rfl

theorem Scaled.within_of_le {v : UnpackedFloat} (scaled : Scaled low high u)
    (nonneg : UnpackedFloat.lt v (.zero .positive) = false)
    (le : UnpackedFloat.le v u = true) : Within high v := by
  cases scaled with
  | @intro mantissa exponent positive full low_le le_high =>
      cases v with
      | notANumber => cases le
      | infinity sign => cases sign with
        | positive => cases le
        | negative => cases nonneg
      | zero sign => exact .zero sign
      | finite sign m e some => cases sign with
        | negative => cases nonneg
        | positive =>
            refine .finite some (le_trans ?_ le_high)
            by_contra above
            have compared : compare e exponent = .gt := by
              rw [compare_gt_iff_gt]
              omega
            simp [UnpackedFloat.le, UnpackedFloat.compare, compared] at le

end Scaled

/-! ## Rounding -/

theorem bounds_of_log2 {n bits : Nat} (some : 0 < bits) (log2 : n.log2 = bits) :
    2 ^ bits ≤ n ∧ n < 2 ^ (bits + 1) := by
  have positive : n ≠ 0 := by
    rintro rfl
    rw [Nat.log2_zero] at log2
    omega
  exact (Nat.log2_eq_iff positive).mp log2

theorem log2_of_bounds {n bits : Nat} (low : 2 ^ bits ≤ n) (high : n < 2 ^ (bits + 1)) :
    n.log2 = bits :=
  (Nat.log2_eq_iff ((by positivity : 0 < 2 ^ bits).trans_le low).ne').mpr ⟨low, high⟩

theorem log2_div_pow {n k : Nat} (le : k ≤ n.log2) : (n / 2 ^ k).log2 = n.log2 - k := by
  obtain rfl | positive := Nat.eq_zero_or_pos n
  · simp
  have low := Nat.log2_self_le positive.ne'
  have high := Nat.lt_log2_self (n := n)
  refine log2_of_bounds ?_ ?_
  · rwa [Nat.le_div_iff_mul_le (by positivity), ← Nat.pow_add, Nat.sub_add_cancel le]
  · rwa [Nat.div_lt_iff_lt_mul (by positivity), ← Nat.pow_add,
      show n.log2 - k + 1 + k = n.log2 + 1 by omega]

theorem log2_mul_pow {n : Nat} (positive : 0 < n) (k : Nat) :
    (n * 2 ^ k).log2 = n.log2 + k := by
  have low := Nat.log2_self_le positive.ne'
  have high := Nat.lt_log2_self (n := n)
  refine log2_of_bounds ?_ ?_
  · rw [Nat.pow_add]
    exact Nat.mul_le_mul_right _ low
  · rw [Nat.add_right_comm, Nat.pow_add]
    exact Nat.mul_lt_mul_of_pos_right high (by positivity)

/-- Two numbers of as many bits, shifted apart: the sum has the bits of the higher one, and at
most one more. -/
theorem log2_add_shifted {m n bits : Nat} (some : 0 < bits) (left : m.log2 = bits)
    (right : n.log2 = bits) (i j : Nat) :
    bits + max i j ≤ (m * 2 ^ i + n * 2 ^ j).log2 ∧
      (m * 2 ^ i + n * 2 ^ j).log2 < bits + max i j + 2 := by
  obtain ⟨m_low, m_high⟩ := bounds_of_log2 some left
  obtain ⟨n_low, n_high⟩ := bounds_of_log2 some right
  have i_le : 2 ^ i ≤ 2 ^ max i j := Nat.pow_le_pow_right (by decide) (Nat.le_max_left i j)
  have j_le : 2 ^ j ≤ 2 ^ max i j := Nat.pow_le_pow_right (by decide) (Nat.le_max_right i j)
  have atMost : 2 ^ bits * 2 ^ max i j ≤ m * 2 ^ i + n * 2 ^ j := by
    obtain max | max : max i j = i ∨ max i j = j := by omega
    · rw [max]
      exact (Nat.mul_le_mul_right _ m_low).trans (Nat.le_add_right _ _)
    · rw [max]
      exact (Nat.mul_le_mul_right _ n_low).trans (Nat.le_add_left _ _)
  have below : m * 2 ^ i + n * 2 ^ j <
      2 ^ (bits + 1) * 2 ^ max i j + 2 ^ (bits + 1) * 2 ^ max i j :=
    Nat.add_lt_add
      ((Nat.mul_lt_mul_of_pos_right m_high (by positivity)).trans_le (Nat.mul_le_mul_left _ i_le))
      ((Nat.mul_lt_mul_of_pos_right n_high (by positivity)).trans_le (Nat.mul_le_mul_left _ j_le))
  rw [← Nat.two_mul, ← Nat.mul_assoc, ← Nat.pow_succ', ← Nat.pow_add] at below
  rw [← Nat.pow_add] at atMost
  have nonzero : m * 2 ^ i + n * 2 ^ j ≠ 0 :=
    ((by positivity : 0 < 2 ^ (bits + max i j)).trans_le atMost).ne'
  rw [Nat.le_log2 nonzero, Nat.log2_lt nonzero]
  refine ⟨atMost, ?_⟩
  rwa [show bits + max i j + 2 = bits + 1 + 1 + max i j by omega]

theorem le_roundToNearestEven (mantissa : Nat) (accuracy : Accuracy) :
    mantissa ≤ accuracy.roundToNearestEven mantissa := by
  unfold Accuracy.roundToNearestEven
  split <;> omega

theorem shiftToTargetExponent_eq {mantissa : Nat} {exponent : Int} (accuracy : Accuracy)
    (full : 52 ≤ mantissa.log2) (least : -1074 ≤ mantissa.log2 + exponent - 52) :
    (shiftToTargetExponent .binary64 mantissa exponent accuracy).1.mantissa =
        mantissa / 2 ^ (mantissa.log2 - 52) ∧
      (shiftToTargetExponent .binary64 mantissa exponent accuracy).2 =
        mantissa.log2 + exponent - 52 := by
  have cut : (max (mantissa.log2 + exponent - 52) (-1074) - exponent).toNat =
      mantissa.log2 - 52 := by omega
  rw [shiftToTargetExponent, shiftToExponent, targetExponent_eq, cut]
  simp only [shift_mantissa, ofMantissaAndAccuracy_mantissa, true_and]
  omega

/-- Rounding up may carry into one more bit, which a second shift cuts off. -/
theorem roundWithAccuracy_eq {mantissa : Nat} {exponent : Int} (accuracy : Accuracy)
    (full : 52 ≤ mantissa.log2) (least : -1074 ≤ mantissa.log2 + exponent - 52) :
    ∃ rounded, (shiftToTargetExponent .binary64 mantissa exponent accuracy).1.roundedMantissa =
        rounded ∧ 2 ^ 52 ≤ rounded ∧ rounded ≤ 2 ^ 53 ∧
      ∃ positive, roundWithAccuracy .binary64 .positive mantissa exponent accuracy =
        .finite .positive (rounded / 2 ^ (rounded.log2 - 52))
          (rounded.log2 + (mantissa.log2 + exponent - 52) - 52) positive := by
  obtain ⟨first, cut⟩ := shiftToTargetExponent_eq accuracy full least
  rw [roundWithAccuracy]
  generalize shiftToTargetExponent .binary64 mantissa exponent accuracy = shifted at first cut ⊢
  obtain ⟨shifted, cutExponent⟩ := shifted
  obtain rfl : cutExponent = mantissa.log2 + exponent - 52 := cut
  have first : shifted.mantissa = mantissa / 2 ^ (mantissa.log2 - 52) := first
  have bits : 2 ^ 52 ≤ shifted.mantissa ∧ shifted.mantissa < 2 ^ 53 :=
    bounds_of_log2 (by decide) (by
      rw [first, log2_div_pow (Nat.sub_le _ _)]
      omega)
  have atLeast : shifted.mantissa ≤ shifted.roundedMantissa := le_roundToNearestEven _ _
  have atMost : shifted.roundedMantissa ≤ shifted.mantissa + 1 := roundToNearestEven_le _ _
  have wide : 52 ≤ shifted.roundedMantissa.log2 := (Nat.le_log2 (by omega)).mpr (by omega)
  obtain ⟨second, last⟩ := @shiftToTargetExponent_eq shifted.roundedMantissa
    (mantissa.log2 + exponent - 52) .exact wide (by omega)
  refine ⟨shifted.roundedMantissa, rfl, by omega, by omega, ?_⟩
  simp only
  generalize shiftToTargetExponent .binary64 shifted.roundedMantissa
    (mantissa.log2 + exponent - 52) .exact = result at second last ⊢
  have positive : 0 < shifted.roundedMantissa / 2 ^ (shifted.roundedMantissa.log2 - 52) :=
    Nat.div_pos ((Nat.pow_le_pow_right (by decide) (Nat.sub_le _ _)).trans
      (Nat.log2_self_le (by omega))) (by positivity)
  refine ⟨positive, ?_⟩
  rw [dif_neg (by omega), UnpackedFloat.finite.injEq]
  exact ⟨rfl, second, last⟩

theorem scaled_roundWithAccuracy {mantissa : Nat} {exponent : Int} (accuracy : Accuracy)
    (full : 52 ≤ mantissa.log2) (least : -1074 ≤ mantissa.log2 + exponent - 52) :
    Scaled (mantissa.log2 + exponent - 52) (mantissa.log2 + exponent - 51)
      (roundWithAccuracy .binary64 .positive mantissa exponent accuracy) := by
  obtain ⟨rounded, -, low, high, positive, same⟩ := roundWithAccuracy_eq accuracy full least
  have carry : rounded.log2 = 52 ∨ rounded.log2 = 53 := by
    rw [Nat.log2_eq_iff (by omega), Nat.log2_eq_iff (by omega)]
    omega
  rw [same]
  refine .intro _ ?_ (by omega) (by omega)
  rw [log2_div_pow (Nat.sub_le _ _)]
  omega

/-- A stored number whose exponent field is neither empty nor full has its leading bit. -/
theorem unpacked_packComponents {exponent : BitVec 11} (notNone : exponent ≠ 0#11)
    (notAll : exponent ≠ -1#11) (fraction : BitVec 52) :
    ∃ positive, unpacked (packComponents .binary64 .positive exponent fraction) =
      .finite .positive (2 ^ 52 + fraction.toNat) (exponent.toNat - 1075) positive := by
  have sign : Sign.ofBitVec Sign.positive.toBitVec = .positive := rfl
  have bias : (Format.binary64.exponentBias : Int) + (52 : Nat) = 1075 := rfl
  simp only [UnpackedFloat.unpack, unpackExponent_packComponents, unpackMantissa_packComponents,
    unpackSign_packComponents]
  rw [if_neg notAll, if_neg notNone]
  refine ⟨Nat.add_pos_left (by decide) _, ?_⟩
  simp only [sign, bias, toNat_withLeadingBit]

theorem unpacked_pack {low high : Int} {u : UnpackedFloat} (scaled : Scaled low high u)
    (least : -1074 ≤ low) (most : high ≤ largestExponent) :
    unpacked (UnpackedFloat.pack .binary64 u) = u := by
  cases scaled with
  | @intro mantissa exponent positive full low_le le_high =>
      unfold largestExponent at most
      have bits : 2 ^ 52 ≤ mantissa ∧ mantissa < 2 ^ 53 := bounds_of_log2 (by decide) full
      have bias : (Format.binary64.exponentBias : Int) = 1023 := rfl
      have fullBits : mantissa.log2 + 1 = Format.binary64.mantissaBits := by
        rw [full]
        rfl
      have field : ((exponent + Format.binary64.exponentBias + 52).toNat : Int) =
          exponent + 1075 := by omega
      simp only [UnpackedFloat.pack]
      rw [if_neg (by change ¬ 2048 ≤ _; omega), if_pos fullBits]
      generalize (exponent + Format.binary64.exponentBias + 52).toNat = biased at field
      have stored : (BitVec.ofNat 11 biased).toNat = biased := by
        rw [BitVec.toNat_ofNat]
        omega
      have fraction : 2 ^ 52 + (BitVec.ofNat 52 mantissa).toNat = mantissa := by
        rw [BitVec.toNat_ofNat]
        omega
      have notNone : BitVec.ofNat 11 biased ≠ 0#11 := fun none => by
        rw [none, BitVec.toNat_ofNat] at stored
        omega
      have notAll : BitVec.ofNat 11 biased ≠ -1#11 := fun all => by
        have last : biased = 2047 := stored.symm.trans (congrArg BitVec.toNat all)
        omega
      obtain ⟨some, same⟩ := unpacked_packComponents notNone notAll (BitVec.ofNat 52 mantissa)
      refine same.trans ?_
      rw [UnpackedFloat.finite.injEq]
      exact ⟨rfl, fraction, by omega⟩

theorem scaled_pack {low high : Int} {u : UnpackedFloat} (scaled : Scaled low high u)
    (least : -1074 ≤ low) (most : high ≤ largestExponent) :
    Scaled low high (unpacked (UnpackedFloat.pack .binary64 u)) := by
  rwa [unpacked_pack scaled least most]

theorem scaled_round {mantissa : Nat} {exponent : Int} (positive : 0 < mantissa)
    (least : -1074 ≤ mantissa.log2 + exponent - 52) :
    Scaled (mantissa.log2 + exponent - 52) (mantissa.log2 + exponent - 51)
      (UnpackedFloat.round .binary64 .positive mantissa exponent) := by
  have wide : (mantissa <<< (52 - mantissa.log2)).log2 =
      mantissa.log2 + (52 - mantissa.log2) := by
    rw [Nat.shiftLeft_eq, log2_mul_pow positive]
  have shift : (exponent - max (mantissa.log2 + exponent - 52) (-1074)).toNat =
      52 - mantissa.log2 := by omega
  simp only [UnpackedFloat.round, decreaseExponent, targetExponent_eq, shift]
  refine (scaled_roundWithAccuracy .exact (by omega) (by omega)).mono ?_ ?_ <;> omega

/-! ## Arithmetic -/

section Arithmetic

variable {a b c d : Int} {u v : UnpackedFloat}

theorem scaled_mul (left : Scaled a b u) (right : Scaled c d v) (least : -1074 ≤ a + c + 52) :
    Scaled (a + c + 52) (b + d + 54) (UnpackedFloat.mul .binary64 u v) := by
  obtain @⟨m, e, _, full, low, high⟩ := left
  obtain @⟨n, f, _, full', low', high'⟩ := right
  obtain ⟨m_low, m_high⟩ := bounds_of_log2 (by decide) full
  obtain ⟨n_low, n_high⟩ := bounds_of_log2 (by decide) full'
  have product_low := Nat.mul_le_mul m_low n_low
  have product_high := Nat.mul_lt_mul'' m_high n_high
  have bits : 104 ≤ (m * n).log2 ∧ (m * n).log2 < 106 := by
    have some : m * n ≠ 0 := by omega
    rw [Nat.le_log2 some, Nat.log2_lt some]
    omega
  refine (scaled_roundWithAccuracy .exact (by omega) (by omega)).mono ?_ ?_ <;> omega

theorem scaled_div (left : Scaled a b u) (right : Scaled c d v) (least : -1074 ≤ a - d - 53) :
    Scaled (a - d - 53) (b - c - 51) (UnpackedFloat.div .binary64 u v) := by
  obtain @⟨m, e, _, full, low, high⟩ := left
  obtain @⟨n, f, _, full', low', high'⟩ := right
  obtain ⟨m_low, m_high⟩ := bounds_of_log2 (by decide) full
  obtain ⟨n_low, n_high⟩ := bounds_of_log2 (by decide) full'
  -- 53 more bits make the quotient long enough
  have target : min (e - f) (Format.binary64.targetExponent
      (totalExponent m e - totalExponent n f)) = e - f - 53 := by
    have least : Format.binary64.minExponent = -1074 := rfl
    simp only [Format.targetExponent, totalExponent, Format.mantissaBits, least, full, full']
    omega
  have shift : (e - f - (e - f - 53)).toNat = 53 := by omega
  have bits : 52 ≤ (m <<< 53 / n).log2 ∧ (m <<< 53 / n).log2 < 54 := by
    have quotient_low : 2 ^ 52 ≤ m <<< 53 / n := by
      rw [Nat.le_div_iff_mul_le (by omega), Nat.shiftLeft_eq]
      omega
    have quotient_high : m <<< 53 / n < 2 ^ 54 := by
      rw [Nat.div_lt_iff_lt_mul (by omega), Nat.shiftLeft_eq]
      omega
    rw [Nat.le_log2 (by omega), Nat.log2_lt (by omega)]
    exact ⟨quotient_low, quotient_high⟩
  simp only [UnpackedFloat.div, divCore, target, shift]
  refine (scaled_roundWithAccuracy _ (by omega) (by omega)).mono ?_ ?_ <;> omega

theorem scaled_add (left : Scaled a b u) (right : Scaled c d v) (least : -1074 ≤ max a c) :
    Scaled (max a c) (max b d + 2) (UnpackedFloat.add .binary64 u v) := by
  obtain @⟨m, e, _, full, low, high⟩ := left
  obtain @⟨n, f, _, full', low', high'⟩ := right
  simp only [UnpackedFloat.add, decreaseExponent, Sign.apply, Nat.shiftLeft_eq]
  have bits := log2_add_shifted (by decide) full full' (e - min e f).toNat (f - min e f).toNat
  generalize m * 2 ^ (e - min e f).toNat = first at bits ⊢
  generalize n * 2 ^ (f - min e f).toNat = second at bits ⊢
  have positive : 0 < first + second := by
    by_contra zero
    rw [Nat.eq_zero_of_not_pos zero, Nat.log2_zero] at bits
    omega
  have compared : compare ((first : Int) + second) 0 = .gt := by
    rw [compare_gt_iff_gt]
    omega
  have whole : ((first : Int) + second).toNat = first + second := by omega
  simp only [UnpackedFloat.normalize, compared, whole]
  refine (scaled_round positive (by omega)).mono ?_ ?_ <;> omega

theorem div_within {bits : BitVec 64} {bound : Int} (left : Within bound (unpacked bits))
    (right : Scaled c d v) :
    Within (max (bound - c) (-1074) + 316) (UnpackedFloat.div .binary64 (unpacked bits) v) := by
  generalize eq : unpacked bits = u at left
  obtain @⟨n, f, positive, full, low, high⟩ := right
  cases left with
  | zero => exact .zero _
  | @finite _ m e _ le =>
      have m_high := unpacked_mantissa_lt eq
      have n_low := (bounds_of_log2 (by decide) full).1
      simp only [UnpackedFloat.div, divCore]
      generalize shifted : min (e - f) (Format.binary64.targetExponent
        (totalExponent m e - totalExponent n f)) = target
      have target_le : target ≤ e - f := by omega
      have shift : (e - f - target).toNat ≤ 105 := by
        have least : Format.binary64.minExponent = -1074 := rfl
        simp only [Format.targetExponent, totalExponent, Format.mantissaBits, least, full]
          at shifted
        omega
      have short : m <<< (e - f - target).toNat / n < 2 ^ 158 := calc
        m <<< (e - f - target).toNat / n ≤ m * 2 ^ (e - f - target).toNat := by
          rw [Nat.shiftLeft_eq]
          exact Nat.div_le_self _ _
        _ ≤ m * 2 ^ 105 := Nat.mul_le_mul_left _ (Nat.pow_le_pow_right (by decide) shift)
        _ < 2 ^ 158 := by omega
      have wide := log2_lt_of_lt short (by decide)
      refine (roundWithAccuracy_within _ _ _ _).mono ?_
      omega

end Arithmetic

/-! ## Doubles -/

theorem scaled_one : Scaled (-52) (-52) (unpacked 0x3FF0000000000000) :=
  .intro (by decide) (by decide) (Int.le_refl _) (Int.le_refl _)

theorem ofNat_of_lt {n : Nat} (below : n < 2 ^ 53) :
    Float.ofNat n = n.toUInt64.toFloat * Float.ofBits 0x3FF0000000000000 := by
  change Float.ofScientific n false 0 = _
  rw [Float.ofScientific, dif_pos ⟨below, by decide⟩]
  rfl

theorem ofNat_of_not_lt {n : Nat} (above : ¬ n < 2 ^ 53) :
    Float.ofNat n = Float.ofModel (Float.Model.ofScientific n 0) := by
  change Float.ofScientific n false 0 = _
  rw [Float.ofScientific, dif_neg fun fits => above fits.1]
  rfl

theorem toFloat_unpacked {n : Nat} (positive : 0 < n) (below : n < 2 ^ 53) :
    (n.toUInt64.toFloat).toModel.unpack =
      unpacked (UnpackedFloat.pack .binary64 (UnpackedFloat.round .binary64 .positive n 0)) := by
  have same : n.toUInt64.toNat = n := by
    simp
    omega
  have compared : compare (n : Int) 0 = .gt := by
    rw [compare_gt_iff_gt]
    omega
  change unpacked (UnpackedFloat.pack .binary64
    (UnpackedFloat.ofUInt64 .binary64 n.toUInt64)) = _
  unfold UnpackedFloat.ofUInt64
  rw [same]
  simp only [UnpackedFloat.ofNat, UnpackedFloat.ofInt, UnpackedFloat.normalize, compared,
    Int.toNat_natCast]

theorem scaled_toFloat {n : Nat} (positive : 0 < n) (below : n < 2 ^ 53) :
    Scaled (n.log2 - 52) (n.log2 - 51) (n.toUInt64.toFloat).toModel.unpack := by
  have bits := log2_lt_of_lt below (by decide)
  rw [toFloat_unpacked positive below]
  refine scaled_pack ?_ (by omega) (by unfold largestExponent; omega)
  refine (scaled_round positive (by omega)).mono ?_ ?_ <;> omega

theorem scaled_ofNat {n : Nat} (positive : 0 < n) (below : n < 2 ^ 64) :
    Scaled (n.log2 - 52) (n.log2 - 49) (Float.ofNat n).toModel.unpack := by
  have bits := log2_lt_of_lt below (by decide)
  by_cases small : n < 2 ^ 53
  · have first := scaled_toFloat positive small
    rw [ofNat_of_lt small]
    refine scaled_pack ?_ (by omega) (by unfold largestExponent; omega)
    refine (scaled_mul first scaled_one (by omega)).mono ?_ ?_ <;> omega
  · rw [ofNat_of_not_lt small]
    refine scaled_pack ?_ (by omega) (by unfold largestExponent; omega)
    have notTiny : ¬ (0 : Int) < -(2 ^ Format.binary64.exponentBits + n.log2) := by
      change ¬ (0 : Int) < -(2048 + n.log2)
      omega
    simp only [UnpackedFloat.ofScientific]
    rw [dif_neg positive.ne', if_neg (by decide), if_neg notTiny, if_pos (by decide)]
    have wide : (n <<< 53 * 10 ^ 0).log2 = n.log2 + 53 := by
      rw [Nat.pow_zero, Nat.mul_one, Nat.shiftLeft_eq, log2_mul_pow positive]
    have rounded := @scaled_roundWithAccuracy (n <<< 53 * 10 ^ 0) (-53 + 0) .exact (by omega)
      (by omega)
    refine rounded.mono ?_ ?_ <;> omega

theorem isFinite_ofNat {n : Nat} (below : n < 2 ^ 64) : (Float.ofNat n).isFinite = true := by
  obtain rfl | positive := Nat.eq_zero_or_pos n
  · rfl
  · exact (scaled_ofNat positive below).within.isFinite

theorem zero_unpacked : (0 : Float).toModel.unpack = .zero .positive := rfl

section Doubles

variable {a b c d : Int} {x y : Float}

theorem scaled_mul_double (left : Scaled a b x.toModel.unpack) (right : Scaled c d y.toModel.unpack)
    (least : -1074 ≤ a + c + 52) (most : b + d + 54 ≤ largestExponent) :
    Scaled (a + c + 52) (b + d + 54) (x * y).toModel.unpack :=
  scaled_pack (scaled_mul left right least) least most

theorem scaled_div_double (left : Scaled a b x.toModel.unpack) (right : Scaled c d y.toModel.unpack)
    (least : -1074 ≤ a - d - 53) (most : b - c - 51 ≤ largestExponent) :
    Scaled (a - d - 53) (b - c - 51) (x / y).toModel.unpack :=
  scaled_pack (scaled_div left right least) least most

theorem scaled_add_double (left : Scaled a b x.toModel.unpack) (right : Scaled c d y.toModel.unpack)
    (least : -1074 ≤ max a c) (most : max b d + 2 ≤ largestExponent) :
    Scaled (max a c) (max b d + 2) (x + y).toModel.unpack :=
  scaled_pack (scaled_add left right least) least most

theorem scaled_add_zero (scaled : Scaled a b x.toModel.unpack) (least : -1074 ≤ a)
    (most : b ≤ largestExponent) : Scaled a b (x + 0).toModel.unpack := by
  refine scaled_pack ?_ least most
  rw [zero_unpacked, scaled.add_zero]
  exact scaled

theorem scaled_zero_add (scaled : Scaled a b x.toModel.unpack) (least : -1074 ≤ a)
    (most : b ≤ largestExponent) : Scaled a b (0 + x).toModel.unpack := by
  refine scaled_pack ?_ least most
  rw [zero_unpacked, scaled.zero_add]
  exact scaled

theorem zero_div_scaled (scaled : Scaled a b x.toModel.unpack) : 0 / x = 0 := by
  have quotient : (0 / x).toModel = Float.Model.pack
      (UnpackedFloat.div .binary64 (0 : Float).toModel.unpack x.toModel.unpack) := rfl
  rw [zero_unpacked, scaled.zero_div, ← zero_toModel] at quotient
  exact congrArg Float.ofModel quotient

theorem zero_lt_scaled (scaled : Scaled a b x.toModel.unpack) : 0 < x :=
  lt_iff.mpr scaled.pos

theorem within_of_le (scaled : Scaled a b y.toModel.unpack) (nonneg : ¬ x < 0) (le : x ≤ y) :
    Within b x.toModel.unpack := by
  refine scaled.within_of_le ?_ (le_iff.mp le)
  rw [← zero_unpacked, ← Bool.not_eq_true]
  exact fun below => nonneg (lt_iff.mpr below)

end Doubles

end InferenceBench.Numeral
