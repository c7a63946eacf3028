import InferenceBench.Numeral.Binary
import Mathlib

/-! # Finite doubles

What the comparison of scores and the writing of prices need to know of 64-bit numbers: products
of small numbers are never rounded to infinity, a finite number less itself is zero, zero lies
between a threshold and its opposite, and a finite number is packed as it was unpacked. The
equations of the format itself come with the whole library, and with no smaller part of it. -/

namespace InferenceBench.Numeral

open Float.Model Float.Model.UnpackedFloat

/-- The parts of a number that is packed into 64 bits. -/
abbrev unpacked (bits : BitVec 64) : UnpackedFloat :=
  UnpackedFloat.unpack .binary64 bits

theorem unpacked_isFinite {bits : BitVec 64} :
    (unpacked bits).isFinite = true ↔ @unpackExponent .binary64 bits ≠ -1#11 := by
  simp only [UnpackedFloat.unpack]
  split
  · next infinite => split <;> simp [UnpackedFloat.isFinite, infinite]
  · next finite =>
      split
      · split <;> exact iff_of_true rfl finite
      · exact iff_of_true rfl finite

theorem isFinite_iff {x : Float} :
    x.isFinite = true ↔ @unpackExponent .binary64 x.toBits.toBitVec ≠ -1#11 :=
  unpacked_isFinite

theorem zero_toModel : (0 : Float).toModel = Float.Model.pack (.zero .positive) := rfl

theorem sub_self_unpacked {u : UnpackedFloat} (finite : u.isFinite = true) :
    UnpackedFloat.sub .binary64 u u = .zero .positive := by
  cases u with
  | infinity | notANumber => simp [UnpackedFloat.isFinite] at finite
  | zero sign => cases sign <;> rfl
  | finite sign mantissa exponent positive =>
      simp [UnpackedFloat.sub, UnpackedFloat.normalize]

/-- A finite number less itself is zero, and not a negative one. -/
theorem sub_self_of_isFinite {x : Float} (finite : x.isFinite = true) : x - x = 0 := by
  have difference : (x - x).toModel =
      pack (UnpackedFloat.sub .binary64 x.toModel.unpack x.toModel.unpack) := rfl
  rw [sub_self_unpacked finite, ← zero_toModel] at difference
  exact congrArg Float.ofModel difference

/-! ## Numbers that fit -/

/-- A finite number whose exponent is not above the bound. The bounds are far from sharp: they only
have to stay below the exponent at which a number becomes infinite. -/
inductive Within (bound : Int) : UnpackedFloat → Prop where
  | zero (sign : Sign) : Within bound (.zero sign)
  | finite {sign : Sign} {mantissa : Nat} {exponent : Int} (positive : 0 < mantissa)
      (le : exponent ≤ bound) : Within bound (.finite sign mantissa exponent positive)

/-- The exponent of the largest finite double. -/
def largestExponent : Int := 971

theorem Within.neg {bound : Int} {u : UnpackedFloat} (within : Within bound u) :
    Within bound u.neg := by
  cases within with
  | zero sign => exact .zero _
  | finite positive le => exact .finite positive le

theorem Within.mono {bound other : Int} {u : UnpackedFloat} (within : Within bound u)
    (le : bound ≤ other) : Within other u := by
  cases within with
  | zero sign => exact .zero sign
  | finite positive fits => exact .finite positive (fits.trans le)

theorem unpacked_within {bits : BitVec 64} {bound : Int} (least : -1074 ≤ bound)
    (finite : @unpackExponent .binary64 bits ≠ -1#11)
    (le : ((@unpackExponent .binary64 bits).toNat : Int) - 1075 ≤ bound) :
    Within bound (unpacked bits) := by
  have bias : (Format.binary64.exponentBias : Int) = 1023 := rfl
  simp only [UnpackedFloat.unpack]
  rw [if_neg finite]
  split
  · next zero =>
      split
      · exact .zero _
      · refine .finite _ ?_
        rw [zero, bias]
        exact least
  · refine .finite _ ?_
    rw [bias]
    exact le

theorem within_unpacked {bits : BitVec 64} (finite : (unpacked bits).isFinite = true) :
    Within largestExponent (unpacked bits) := by
  have exponent := unpacked_isFinite.mp finite
  have below : (@unpackExponent .binary64 bits).toNat < 2048 := BitVec.isLt _
  have field : (@unpackExponent .binary64 bits).toNat ≠ 2047 := fun all =>
    exponent (BitVec.eq_of_toNat_eq all)
  refine unpacked_within (by decide) exponent ?_
  unfold largestExponent
  omega

theorem pack_within {bound : Int} {u : UnpackedFloat} (within : Within bound u)
    (least : -1074 ≤ bound) (fits : bound ≤ largestExponent) :
    Within bound (unpacked (UnpackedFloat.pack .binary64 u)) := by
  cases within with
  | zero sign =>
      cases sign
      · exact .zero .negative
      · exact .zero .positive
  | @finite sign mantissa exponent positive le =>
      unfold largestExponent at fits
      have bias : (Format.binary64.exponentBias : Int) = 1023 := rfl
      simp only [UnpackedFloat.pack]
      have field : (exponent + Format.binary64.exponentBias + 52).toNat ≤ 2046 := by
        rw [bias]
        omega
      split
      · omega
      · split
        · refine unpacked_within least ?_ ?_
          · rw [unpackExponent_packComponents]
            intro all
            have := congrArg BitVec.toNat all
            simp at this
            omega
          · rw [unpackExponent_packComponents]
            simp
            omega
        · refine unpacked_within least ?_ ?_
          · rw [unpackExponent_packComponents]
            decide
          · rw [unpackExponent_packComponents]
            simp
            omega

theorem Within.isFinite {bound : Int} {u : UnpackedFloat} (within : Within bound u) :
    u.isFinite = true := by
  cases within <;> rfl

theorem isFinite_pack {bound : Int} {u : UnpackedFloat} (within : Within bound u)
    (least : -1074 ≤ bound) (fits : bound ≤ largestExponent) :
    (Float.ofModel (Float.Model.pack u)).isFinite = true :=
  (pack_within within least fits).isFinite

theorem isFinite_neg {x : Float} (finite : x.isFinite = true) : (-x).isFinite = true :=
  isFinite_pack (within_unpacked finite).neg (by decide) (Int.le_refl _)

/-! ## Rounding -/

theorem shift_mantissa (em : ExtendedMantissa) (count : Nat) :
    (em >>> count).mantissa = em.mantissa / 2 ^ count := by
  induction count with
  | zero => exact (Nat.div_one _).symm
  | succ count ih =>
      change (em >>> count).mantissa / 2 = _
      rw [ih, Nat.div_div_eq_div_mul, Nat.pow_succ]

theorem roundToNearestEven_le (mantissa : Nat) (accuracy : Accuracy) :
    accuracy.roundToNearestEven mantissa ≤ mantissa + 1 := by
  unfold Accuracy.roundToNearestEven
  split <;> omega

theorem ofMantissaAndAccuracy_mantissa (mantissa : Nat) (accuracy : Accuracy) :
    (ExtendedMantissa.ofMantissaAndAccuracy mantissa accuracy).mantissa = mantissa := by
  unfold ExtendedMantissa.ofMantissaAndAccuracy
  split <;> rfl

theorem log2_lt_of_lt {n bits : Nat} (below : n < 2 ^ bits) (some : 0 < bits) :
    n.log2 < bits := by
  by_cases zero : n = 0
  · simpa [zero] using some
  · exact (Nat.log2_lt zero).mpr below

theorem log2_le_of_le_succ {m n : Nat} (le : m ≤ n + 1) : m.log2 ≤ n.log2 + 1 := by
  have below : m < 2 ^ (n.log2 + 2) := by
    have := Nat.lt_log2_self (n := n)
    rw [Nat.pow_succ]
    omega
  exact Nat.le_of_lt_succ (log2_lt_of_lt below (Nat.succ_pos _))

theorem targetExponent_eq (mantissa : Nat) (exponent : Int) :
    Format.binary64.targetExponent (totalExponent mantissa exponent) =
      max (mantissa.log2 + exponent - 52) (-1074) := by
  have least : Format.binary64.minExponent = -1074 := rfl
  simp only [Format.targetExponent, totalExponent, Format.mantissaBits, least]
  omega

/-- Rounding raises the exponent, and not by more than the mantissa has bits to lose. -/
theorem roundWithAccuracy_within (sign : Sign) (mantissa : Nat) (exponent : Int)
    (accuracy : Accuracy) :
    Within (max exponent (-1074) + 2 * mantissa.log2)
      (roundWithAccuracy .binary64 sign mantissa exponent accuracy) := by
  simp only [roundWithAccuracy, shiftToTargetExponent, shiftToExponent, targetExponent_eq]
  split
  · exact .zero sign
  · refine .finite _ ?_
    have rounded := roundToNearestEven_le
      (ExtendedMantissa.ofMantissaAndAccuracy mantissa accuracy >>>
        (max (mantissa.log2 + exponent - 52) (-1074) - exponent).toNat).mantissa
      (ExtendedMantissa.ofMantissaAndAccuracy mantissa accuracy >>>
        (max (mantissa.log2 + exponent - 52) (-1074) - exponent).toNat).accuracy
    have shifted : (ExtendedMantissa.ofMantissaAndAccuracy mantissa accuracy >>>
        (max (mantissa.log2 + exponent - 52) (-1074) - exponent).toNat).mantissa ≤ mantissa := by
      rw [shift_mantissa, ofMantissaAndAccuracy_mantissa]
      exact Nat.div_le_self _ _
    have bits := log2_le_of_le_succ (rounded.trans (Nat.succ_le_succ shifted))
    simp only [ExtendedMantissa.roundedMantissa]
    omega

theorem unpacked_mantissa_lt {bits : BitVec 64} {sign : Sign} {mantissa : Nat} {exponent : Int}
    {positive : 0 < mantissa}
    (parts : unpacked bits = .finite sign mantissa exponent positive) : mantissa < 2 ^ 53 := by
  simp only [UnpackedFloat.unpack] at parts
  split at parts
  · split at parts <;> cases parts
  · split at parts
    · split at parts
      · cases parts
      · injection parts with _ same
        have fraction := (@unpackMantissa .binary64 bits).isLt
        omega
    · injection parts with _ same
      have whole := (1#1 ++ @unpackMantissa .binary64 bits).isLt
      omega

theorem mul_within {first second : BitVec 64} {bound other : Int}
    (left : Within bound (unpacked first)) (right : Within other (unpacked second)) :
    Within (max (bound + other) (-1074) + 210)
      (UnpackedFloat.mul .binary64 (unpacked first) (unpacked second)) := by
  generalize eq : unpacked first = u at left
  generalize eq' : unpacked second = v at right
  cases left with
  | zero => cases right <;> exact .zero _
  | finite positive le =>
      cases right with
      | zero => exact .zero _
      | finite positive' le' =>
          have product := Nat.mul_lt_mul'' (unpacked_mantissa_lt eq) (unpacked_mantissa_lt eq')
          rw [← Nat.pow_add] at product
          have bits := log2_lt_of_lt product (by decide)
          refine (roundWithAccuracy_within _ _ _ .exact).mono ?_
          omega

/-! ## Order -/

theorem unpackSign_packComponents (sign : Sign) (exponent : BitVec 11) (mantissa : BitVec 52) :
    @unpackSign .binary64 (packComponents .binary64 sign exponent mantissa) =
      sign.toBitVec := by
  ext i hi
  simp [unpackSign, packComponents]
  grind

theorem not_zero_lt_unpacked {bits : BitVec 64}
    (negative : Sign.ofBitVec (@unpackSign .binary64 bits) = .negative) :
    UnpackedFloat.lt (.zero .positive) (unpacked bits) = false := by
  simp only [UnpackedFloat.unpack, negative]
  split
  · split <;> rfl
  · split
    · split <;> rfl
    · rfl

theorem lt_iff {x y : Float} :
    x < y ↔ UnpackedFloat.lt x.toModel.unpack y.toModel.unpack = true :=
  decide_eq_true_iff

theorem le_iff {x y : Float} :
    x ≤ y ↔ UnpackedFloat.le x.toModel.unpack y.toModel.unpack = true :=
  decide_eq_true_iff

theorem zero_le_parts {u : UnpackedFloat} (nonneg : UnpackedFloat.le (.zero .positive) u = true) :
    (∃ sign, u = .zero sign) ∨ u = .infinity .positive ∨
      ∃ mantissa exponent positive, u = .finite .positive mantissa exponent positive := by
  cases u with
  | infinity sign => cases sign with
    | positive => exact .inr (.inl rfl)
    | negative => cases nonneg
  | notANumber => cases nonneg
  | zero sign => exact .inl ⟨sign, rfl⟩
  | finite sign mantissa exponent positive => cases sign with
    | positive => exact .inr (.inr ⟨mantissa, exponent, positive, rfl⟩)
    | negative => cases nonneg

theorem not_lt_zero_of_nonneg {x : Float} (nonneg : 0 ≤ x) : ¬ x < 0 := by
  intro below
  have below : UnpackedFloat.lt x.toModel.unpack (.zero .positive) = true := lt_iff.mp below
  obtain ⟨sign, zero⟩ | infinite | ⟨mantissa, exponent, positive, finite⟩ :=
    zero_le_parts (le_iff.mp nonneg)
  · rw [zero] at below
    cases below
  · rw [infinite] at below
    cases below
  · rw [finite] at below
    cases below

theorem not_zero_lt_neg_of_nonneg {x : Float} (nonneg : 0 ≤ x) : ¬ 0 < -x := by
  intro above
  have above : UnpackedFloat.lt (.zero .positive)
      (unpacked (UnpackedFloat.pack .binary64 x.toModel.unpack.neg)) = true := lt_iff.mp above
  obtain ⟨sign, zero⟩ | infinite | ⟨mantissa, exponent, positive, finite⟩ :=
    zero_le_parts (le_iff.mp nonneg)
  · rw [zero] at above
    cases sign <;> cases above
  · rw [infinite] at above
    cases above
  · have negative : Sign.ofBitVec (@unpackSign .binary64
        (UnpackedFloat.pack .binary64 x.toModel.unpack.neg)) = .negative := by
      rw [finite]
      simp only [UnpackedFloat.neg, UnpackedFloat.pack]
      split
      · rfl
      · split <;> rw [unpackSign_packComponents] <;> rfl
    rw [not_zero_lt_unpacked negative] at above
    cases above

/-! ## Stored numbers -/

theorem decode_of_field {format : Format} {bits : Nat}
    (field : bits / Nat.pow 2 format.fractionBits % Nat.pow 2 format.exponentBits ≠
      Nat.pow 2 format.exponentBits - 1) :
    ∃ negative magnitude, format.decode bits = .finite negative magnitude := by
  simp only [Format.decode, if_neg field]
  split <;> exact ⟨_, _, rfl⟩

theorem unpackExponent_toNat (bits : BitVec 64) :
    (@unpackExponent .binary64 bits).toNat = bits.toNat / 2 ^ 52 % 2 ^ 11 := by
  simp [unpackExponent, Nat.shiftRight_eq_div_pow]

theorem ofDouble_of_isFinite {x : Float} (finite : x.isFinite = true) :
    ∃ negative magnitude, ofDouble x = .finite negative magnitude := by
  refine decode_of_field ?_
  intro field
  refine isFinite_iff.mp finite (BitVec.eq_of_toNat_eq ?_)
  rw [unpackExponent_toNat]
  exact field

/-! ## Packing -/

theorem packComponents_fields (bits : BitVec 64) :
    packComponents .binary64 (Sign.ofBitVec (@unpackSign .binary64 bits))
      (@unpackExponent .binary64 bits) (@unpackMantissa .binary64 bits) = bits := by
  have sign : (Sign.ofBitVec (@unpackSign .binary64 bits)).toBitVec =
      @unpackSign .binary64 bits := by
    unfold Sign.ofBitVec
    split
    · next zero => exact zero.symm
    · next one => exact ((BitVec.eq_zero_or_eq_one _).resolve_left one).symm
  unfold packComponents
  rw [sign]
  ext i hi
  simp [unpackSign, unpackExponent, unpackMantissa]
  grind

/-- The leading bit that is not stored is the bit above the stored ones. -/
theorem toNat_withLeadingBit (fraction : BitVec 52) :
    (1#1 ++ fraction).toNat = 2 ^ 52 + fraction.toNat := by
  rw [BitVec.toNat_append, ← Nat.shiftLeft_add_eq_or_of_lt fraction.isLt]
  simp [Nat.shiftLeft_eq]

theorem log2_withLeadingBit (fraction : BitVec 52) : (1#1 ++ fraction).toNat.log2 = 52 := by
  have := fraction.isLt
  have sum := toNat_withLeadingBit fraction
  rw [Nat.log2_eq_iff (by omega)]
  omega

theorem pack_unpacked {bits : BitVec 64} (finite : (unpacked bits).isFinite = true) :
    UnpackedFloat.pack .binary64 (unpacked bits) = bits := by
  have exponent := unpacked_isFinite.mp finite
  have bias : (Format.binary64.exponentBias : Int) = 1023 := rfl
  have below : (@unpackExponent .binary64 bits).toNat < 2048 := BitVec.isLt _
  have field : (@unpackExponent .binary64 bits).toNat ≠ 2047 := fun all =>
    exponent (BitVec.eq_of_toNat_eq all)
  have fraction : (@unpackMantissa .binary64 bits).toNat < 2 ^ 52 := BitVec.isLt _
  conv_rhs => rw [← packComponents_fields bits]
  simp only [UnpackedFloat.unpack]
  rw [if_neg exponent]
  split
  · next zero =>
      rw [zero]
      split
      · next none =>
          rw [none]
          rfl
      · have short : (@unpackMantissa .binary64 bits).toNat.log2 + 1 ≠
            Format.binary64.mantissaBits := by
          have := log2_lt_of_lt fraction (by decide)
          change _ ≠ 53
          omega
        simp only [UnpackedFloat.pack]
        rw [bias, if_neg (by decide), if_neg short, BitVec.ofNat_toNat]
        simp
  · have full : (1#1 ++ @unpackMantissa .binary64 bits).toNat.log2 + 1 =
        Format.binary64.mantissaBits := by
      rw [log2_withLeadingBit]
      rfl
    have biased : (((@unpackExponent .binary64 bits).toNat : Int) -
        (Format.binary64.exponentBias + (52 : Nat)) + Format.binary64.exponentBias +
          (52 : Nat)).toNat = (@unpackExponent .binary64 bits).toNat := by omega
    simp only [UnpackedFloat.pack]
    rw [biased, if_neg (by change ¬ 2048 ≤ _; omega), if_pos full, BitVec.ofNat_toNat,
      toNat_withLeadingBit]
    congr 1
    refine BitVec.eq_of_toNat_eq ?_
    rw [BitVec.toNat_ofNat, Nat.add_mod_left, Nat.mod_eq_of_lt fraction]

theorem ofBits_toBits {x : Float} (finite : x.isFinite = true) : Float.ofBits x.toBits = x := by
  have bits : (Float.Model.ofBits x.toBits).toBits = x.toModel.toBits :=
    congrArg UInt64.ofBitVec (@pack_unpacked x.toBits.toBitVec finite)
  have model : Float.Model.ofBits x.toBits = x.toModel := by
    cases same : Float.Model.ofBits x.toBits
    cases same' : x.toModel
    rw [same, same'] at bits
    cases bits
    rfl
  exact congrArg Float.ofModel model

end InferenceBench.Numeral
