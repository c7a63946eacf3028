import InferenceBench.Proofs.Numeral.Value
import InferenceBench.Run.Tally

/-! # The index of a quantile

A quantile of hundredths is no double, only one next to it. If that lies below by no more than half
a step, its product with a length, which is rounded once more, still has the whole part of the exact
one: where the exact one is whole, rounding restores it, and everywhere else a hundredth is more
than the rounding can add.
-/

namespace InferenceBench

open Numeral

/-- A double for so many hundredths that is not above them, and less by half a step at most. -/
structure Hundredths (count : Nat) (quantile : Float) : Prop where
  proper : count ≤ 100
  scaled : Scaled (-53) (-53) quantile.toModel.unpack
  notAbove : 100 * valueOf quantile.toModel.unpack ≤ count
  near : (count : ℚ) ≤
    100 * (valueOf quantile.toModel.unpack + valueOf quantile.toModel.unpack / 2 ^ 54)
  nonneg : ¬ quantile < 0
  le_one : ¬ 1 < quantile

namespace Hundredths

variable {count length : Nat} {quantile : Float}

theorem of_mantissa (mantissa : Nat) (positive : 0 < mantissa)
    (stored : quantile.toModel.unpack = .finite .positive mantissa (-53) positive)
    (full : mantissa.log2 = 52) (proper : count ≤ 100)
    (notAbove : 100 * mantissa ≤ count * 2 ^ 53)
    (near : count * 2 ^ 53 * 2 ^ 54 ≤ 100 * (mantissa * 2 ^ 54 + mantissa))
    (nonneg : ¬ quantile < 0) (le_one : ¬ 1 < quantile) : Hundredths count quantile := by
  have value : valueOf quantile.toModel.unpack = mantissa / 2 ^ 53 := by
    rw [stored, valueOf, zpow_neg, div_eq_mul_inv]
    norm_num
  have notAbove : (100 * mantissa : ℚ) ≤ count * 2 ^ 53 := by exact_mod_cast notAbove
  have near : (count * 2 ^ 53 * 2 ^ 54 : ℚ) ≤ 100 * (mantissa * 2 ^ 54 + mantissa) := by
    exact_mod_cast near
  refine ⟨proper, ?_, ?_, ?_, nonneg, le_one⟩
  · rw [stored]
    exact .intro positive full le_rfl le_rfl
  · rw [value]
    linarith
  · rw [value]
    linarith

theorem wholePart (hundredths : Hundredths count quantile) (positive : 0 < length)
    (short : length ≤ 2 ^ 40) :
    (Float.ofNat length * quantile).toUInt64.toNat = count * length / 100 := by
  obtain ⟨proper, scaled, notAbove, near, -, -⟩ := hundredths
  have bits : length.log2 < 41 := log2_lt_of_lt (by omega) (by decide)
  have factor := @scaled_ofNat length positive (by omega)
  have rounds := roundsTo_mul_double factor scaled (by omega) (by unfold largestExponent; omega)
  have product := scaled_mul_double factor scaled (by omega) (by unfold largestExponent; omega)
  rw [valueOf_ofNat positive (by omega)] at rounds
  change (Float.ofNat length * quantile).toModel.unpack.toUInt64.toNat = _
  rw [toUInt64_eq (product.mono le_rfl (by omega))]
  generalize valueOf quantile.toModel.unpack = value at *
  generalize valueOf (Float.ofNat length * quantile).toModel.unpack = computed at *
  have proper : (count : ℚ) ≤ 100 := by exact_mod_cast proper
  have positive : (0 : ℚ) < length := by exact_mod_cast positive
  have short : (length : ℚ) ≤ 2 ^ 40 := by exact_mod_cast short
  have split : 100 * (count * length / 100 : ℕ) + (count * length % 100 : ℕ) =
      (count * length : ℚ) := by exact_mod_cast Nat.div_add_mod (count * length) 100
  have rest : ((count * length % 100 : ℕ) : ℚ) ≤ 99 := by
    exact_mod_cast Nat.le_of_lt_succ (Nat.mod_lt _ (by decide))
  have nonneg : (0 : ℚ) ≤ (count * length % 100 : ℕ) := Nat.cast_nonneg _
  have exactBelow : 100 * (length * value) ≤ count * length := by nlinarith
  have exactNear : (count * length : ℚ) ≤
      100 * (length * value + length * value / 2 ^ 54) := by nlinarith
  have small : length * value ≤ 2 ^ 40 := by nlinarith
  have low : ((count * length / 100 : ℕ) : ℚ) ≤ computed :=
    rounds.whole_le (by linarith) (by linarith)
  have high : computed < (count * length / 100 : ℕ) + 1 := by
    have := rounds.le_add
    linarith
  exact (Nat.floor_eq_iff (le_trans (Nat.cast_nonneg _) low)).mpr ⟨low, high⟩

theorem percentileIndex?_eq (hundredths : Hundredths count quantile) (positive : 0 < length)
    (short : length ≤ 2 ^ 40) :
    percentileIndex? length quantile = some (min (count * length / 100) (length - 1)) := by
  rw [percentileIndex?, if_neg positive.ne']
  simp only [if_neg hundredths.nonneg, if_neg hundredths.le_one,
    hundredths.wholePart positive short]

end Hundredths

/-! ## The nearest doubles -/

/-- No finite double is nearer to the number. -/
structure IsNearest (exact : ℚ) (x : Float) : Prop where
  finite : x.isFinite = true
  near : ∀ other : Float, other.isFinite = true →
    |valueOf x.toModel.unpack - exact| ≤ |valueOf other.toModel.unpack - exact|

/-- From a half on, doubles are multiples of a step of their own size at most. -/
theorem on_grid_of_half_le {x : Float} (half : 1 / 2 ≤ valueOf x.toModel.unpack) :
    ∃ count : ℕ, valueOf x.toModel.unpack = count / 2 ^ 53 := by
  cases parts : x.toModel.unpack with
  | zero | infinity | notANumber =>
      rw [parts, valueOf] at half
      norm_num at half
  | finite sign mantissa exponent positive =>
      have short : mantissa < 2 ^ 53 := unpacked_mantissa_lt parts
      have unit := two_zpow_pos exponent
      rw [parts] at half
      cases sign with
      | negative =>
          have : (0 : ℚ) ≤ mantissa * 2 ^ exponent := by positivity
          rw [valueOf] at half
          linarith
      | positive =>
          rw [valueOf] at half ⊢
          have coarse : -53 ≤ exponent := by
            by_contra fine
            have below : (mantissa : ℚ) < 2 ^ 53 := by exact_mod_cast short
            have step : (2 : ℚ) ^ exponent ≤ 2 ^ (-54 : ℤ) :=
              zpow_le_zpow_right₀ (by norm_num) (by omega)
            have small := calc
              (mantissa * 2 ^ exponent : ℚ) < 2 ^ 53 * 2 ^ exponent := by gcongr
              _ ≤ 2 ^ 53 * 2 ^ (-54 : ℤ) := by gcongr
              _ = 1 / 2 := by norm_num
            linarith
          obtain ⟨places, rfl⟩ : ∃ places : ℕ, exponent = places - 53 :=
            ⟨(exponent + 53).toNat, by omega⟩
          refine ⟨mantissa * 2 ^ places, ?_⟩
          rw [zpow_sub₀ (by norm_num), zpow_natCast]
          push_cast
          norm_num
          ring

theorem Hundredths.isNearest {count : Nat} {quantile : Float}
    (hundredths : Hundredths count quantile) : IsNearest (count / 100) quantile := by
  obtain ⟨-, scaled, notAbove, near, -, -⟩ := hundredths
  obtain ⟨stored, low, high, value⟩ := scaled.valueOf_eq
  have low : (2 ^ 52 : ℚ) ≤ stored := by exact_mod_cast low
  have high : (stored : ℚ) < 2 ^ 53 := by exact_mod_cast high
  refine ⟨scaled.within.isFinite, fun other _ => ?_⟩
  rw [zpow_neg, ← div_eq_mul_inv] at value
  norm_cast at value
  rw [value] at notAbove near ⊢
  have below : (stored / 2 ^ 53 : ℚ) ≤ count / 100 := by linarith
  rw [abs_of_nonpos (by linarith)]
  by_cases small : valueOf other.toModel.unpack < 1 / 2
  · apply le_trans _ (neg_le_abs _)
    linarith
  · obtain ⟨next, onGrid⟩ := on_grid_of_half_le (not_lt.mp small)
    rw [onGrid]
    by_cases above : next ≤ stored
    · have above : (next : ℚ) ≤ stored := by exact_mod_cast above
      apply le_trans _ (neg_le_abs _)
      linarith
    · have above : (stored + 1 : ℚ) ≤ next := by exact_mod_cast Nat.lt_of_not_le above
      apply le_trans _ (le_abs_self _)
      linarith

theorem hundredths_95 : Hundredths 95 0.95 :=
  .of_mantissa 8556839292003942 (by decide) rfl (by decide) (by decide) (by decide) (by decide)
    (by decide) (by decide)

theorem hundredths_99 : Hundredths 99 0.99 :=
  .of_mantissa 8917127262193582 (by decide) rfl (by decide) (by decide) (by decide) (by decide)
    (by decide) (by decide)

/-- Up to `2 ^ 40` latencies, the index is the one that exact arithmetic gives, although the
quantile is only the nearest double and the product is rounded. -/
theorem percentile_index_whole {length : Nat} (positive : 1 ≤ length) (short : length ≤ 2 ^ 40) :
    (IsNearest (95 / 100) 0.95 ∧
      percentileIndex? length 0.95 = some (min (95 * length / 100) (length - 1))) ∧
    IsNearest (99 / 100) 0.99 ∧
      percentileIndex? length 0.99 = some (min (99 * length / 100) (length - 1)) :=
  ⟨⟨hundredths_95.isNearest, hundredths_95.percentileIndex?_eq positive short⟩,
    hundredths_99.isNearest, hundredths_99.percentileIndex?_eq positive short⟩

theorem percentile_index_whole_hundred :
    1 ≤ 100 ∧ 100 ≤ 2 ^ 40 ∧ percentileIndex? 100 0.95 = some 95 ∧
      percentileIndex? 100 0.99 = some 99 := by
  have some : 1 ≤ 100 := by decide
  have few : 100 ≤ 2 ^ 40 := by decide
  obtain ⟨⟨-, index95⟩, -, index99⟩ := percentile_index_whole some few
  exact ⟨some, few, index95, index99⟩

end InferenceBench
