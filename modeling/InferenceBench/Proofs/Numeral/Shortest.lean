import InferenceBench.Numeral.Shortest
import InferenceBench.Proofs.Numeral.Rounding

/-! # Shortest decimals read back

The search for a shortest decimal returns one that rounds to the stored number, and it does find
one: a step of the grid with seventeen digits is narrower than the interval of these numbers, so at
least one of the value's two neighbours on it lies in the interval.
-/

namespace InferenceBench.Numeral

/-- The number that the decimal stands for. -/
def Decimal.value (decimal : Decimal) : ℚ := decimal.digits * 10 ^ decimal.exponent

theorem ten_zpow_pos (k : ℤ) : (0 : ℚ) < 10 ^ k := zpow_pos (by norm_num) k

/-- Taking a power of ten above the grid as a single digit does not change the number. -/
theorem Decimal.value_carried (count : Nat) (decimal : Decimal) :
    (decimal.carried count).value = decimal.value := by
  unfold Decimal.carried
  split
  · next carry =>
      simp only [Decimal.value, carry, Nat.pow_eq]
      rw [add_comm, zpow_add₀ (by norm_num)]
      simp
  · rfl

theorem Tie.round_eq (tie : Tie) (numerator : Nat) {denominator : Nat} (hd : 0 < denominator) :
    tie.round numerator denominator = numerator / denominator ∨
      tie.round numerator denominator = numerator / denominator + 1 := by
  cases tie with
  | toEven =>
      simp only [Tie.round, roundHalfEven]
      split
      · exact .inl rfl
      · split
        · exact .inr rfl
        · omega
  | up =>
      have split := Nat.div_add_mod numerator denominator
      have rest := Nat.mod_lt numerator hd
      have half : 2 * numerator + denominator =
          2 * (numerator % denominator) + denominator +
            2 * denominator * (numerator / denominator) := by
        rw [Nat.mul_assoc]
        omega
      simp only [Tie.round]
      rw [half, Nat.add_mul_div_left _ _ (by omega)]
      have carry : (2 * (numerator % denominator) + denominator) / (2 * denominator) < 2 := by
        rw [Nat.div_lt_iff_lt_mul (by omega)]
        omega
      generalize (2 * (numerator % denominator) + denominator) / (2 * denominator) = extra at carry
      omega

/-! ## The numbers of an interval -/

section Scaled

variable (a b : Nat) (k : ℤ)

theorem scaled_le_iff :
    a * Nat.pow 10 (-k).toNat ≤ b * Nat.pow 10 k.toNat ↔ (a : ℚ) ≤ b * 10 ^ k := by
  have scale : (0 : ℚ) < (Nat.pow 10 (-k).toNat : ℕ) := by exact_mod_cast Nat.pow_pos (by norm_num)
  rw [← Nat.cast_le (α := ℚ), Nat.cast_mul, Nat.cast_mul, toNat_pow 10 k (by norm_num),
    mul_left_comm, mul_comm, Nat.cast_ofNat]
  exact mul_le_mul_iff_of_pos_left scale

theorem le_scaled_iff :
    b * Nat.pow 10 k.toNat ≤ a * Nat.pow 10 (-k).toNat ↔ (b : ℚ) * 10 ^ k ≤ a := by
  have scale : (0 : ℚ) < (Nat.pow 10 (-k).toNat : ℕ) := by exact_mod_cast Nat.pow_pos (by norm_num)
  rw [← Nat.cast_le (α := ℚ), Nat.cast_mul, Nat.cast_mul, toNat_pow 10 k (by norm_num),
    mul_left_comm, mul_comm (a : ℚ), Nat.cast_ofNat]
  exact mul_le_mul_iff_of_pos_left scale

theorem scaled_lt_iff :
    a * Nat.pow 10 (-k).toNat < b * Nat.pow 10 k.toNat ↔ (a : ℚ) < b * 10 ^ k := by
  rw [← not_le, le_scaled_iff, not_le]

theorem lt_scaled_iff :
    b * Nat.pow 10 k.toNat < a * Nat.pow 10 (-k).toNat ↔ (b : ℚ) * 10 ^ k < a := by
  rw [← not_le, scaled_le_iff, not_le]

end Scaled

namespace Interval

variable {interval : Interval} (hd : 0 < interval.denominator)
include hd

theorem holds_iff (decimal : Decimal) :
    interval.holds decimal = true ↔
      (interval.low : ℚ) / interval.denominator ≤ decimal.value ∧
        decimal.value ≤ interval.high / interval.denominator ∧
        (interval.closed = false → (interval.low : ℚ) / interval.denominator < decimal.value ∧
          decimal.value < interval.high / interval.denominator) := by
  have positive : (0 : ℚ) < interval.denominator := by exact_mod_cast hd
  have value : ((decimal.digits * interval.denominator : ℕ) : ℚ) * 10 ^ decimal.exponent =
      decimal.value * interval.denominator := by
    rw [Decimal.value]
    push_cast
    ring
  simp only [holds, Nat.mul_right_comm decimal.digits]
  rw [div_le_iff₀ positive, le_div_iff₀ positive, div_lt_iff₀ positive, lt_div_iff₀ positive]
  cases interval.closed with
  | true =>
      simp only [if_true, Bool.and_eq_true, decide_eq_true_eq, scaled_le_iff, le_scaled_iff, value,
        Bool.true_eq_false, false_implies, and_true]
  | false =>
      simp only [Bool.false_eq_true, if_false, Bool.and_eq_true, decide_eq_true_eq, scaled_lt_iff,
        lt_scaled_iff, value, true_implies]
      exact ⟨fun ⟨low, high⟩ => ⟨low.le, high.le, low, high⟩, fun ⟨_, _, within⟩ => within⟩

theorem holds_of_neighbour? {tie : Tie} {exponent : ℤ} {decimal : Decimal}
    (found : interval.neighbour? tie exponent = some decimal) : interval.holds decimal = true := by
  have scaled : 0 < interval.denominator * Nat.pow 10 exponent.toNat :=
    Nat.mul_pos hd (Nat.pow_pos (by norm_num))
  simp only [neighbour?] at found
  split at found
  · next below above =>
      obtain rfl := Option.some.inj found
      obtain same | same := tie.round_eq (interval.value * Nat.pow 10 (-exponent).toNat) scaled
      · rwa [same]
      · rwa [same]
  · next below _ =>
      obtain rfl := Option.some.inj found
      exact below
  · next above =>
      obtain rfl := Option.some.inj found
      exact above
  · cases found

theorem value_between (exponent : ℤ) :
    Decimal.value ⟨interval.value * Nat.pow 10 (-exponent).toNat /
        (interval.denominator * Nat.pow 10 exponent.toNat), exponent⟩ ≤
      interval.value / interval.denominator ∧
    (interval.value : ℚ) / interval.denominator <
      Decimal.value ⟨interval.value * Nat.pow 10 (-exponent).toNat /
        (interval.denominator * Nat.pow 10 exponent.toNat) + 1, exponent⟩ := by
  have ten := ten_zpow_pos exponent
  have scaled : 0 < interval.denominator * Nat.pow 10 exponent.toNat :=
    Nat.mul_pos hd (Nat.pow_pos (by norm_num))
  have quotient := scaled_quotient 10 interval.value interval.denominator exponent (by norm_num)
  rw [Nat.cast_ofNat] at quotient
  simp only [Decimal.value]
  constructor
  · rw [← le_div_iff₀ ten, ← quotient]
    exact Nat.cast_div_le
  · rw [← div_lt_iff₀ ten, ← quotient, div_lt_iff₀ (by exact_mod_cast scaled)]
    exact_mod_cast (Nat.div_lt_iff_lt_mul scaled).mp (Nat.lt_succ_self _)

/-- One of the neighbours lies in an interval around the value that is wider than a step. -/
theorem neighbour?_isSome (tie : Tie) {exponent : ℤ} (low : interval.low < interval.value)
    (high : interval.value < interval.high)
    (step : (10 : ℚ) ^ exponent < (interval.high - interval.low) / interval.denominator) :
    (interval.neighbour? tie exponent).isSome = true := by
  have positive : (0 : ℚ) < interval.denominator := by exact_mod_cast hd
  have low : (interval.low : ℚ) / interval.denominator < interval.value / interval.denominator :=
    div_lt_div_of_pos_right (by exact_mod_cast low) positive
  have high : (interval.value : ℚ) / interval.denominator < interval.high / interval.denominator :=
    div_lt_div_of_pos_right (by exact_mod_cast high) positive
  have outside {decimal : Decimal} (misses : interval.holds decimal = false) :
      decimal.value ≤ interval.low / interval.denominator ∨
        interval.high / interval.denominator ≤ decimal.value := by
    by_contra inside
    obtain ⟨lower, upper⟩ := not_or.mp inside
    rw [not_le] at lower upper
    rw [(holds_iff hd decimal).mpr ⟨lower.le, upper.le, fun _ => ⟨lower, upper⟩⟩] at misses
    cases misses
  obtain ⟨below, above⟩ := value_between hd exponent
  simp only [neighbour?]
  split
  · rfl
  · rfl
  · rfl
  · next notBelow notAbove =>
      exfalso
      have under := (outside notBelow).resolve_right (by linarith)
      have beyond := (outside notAbove).resolve_left (by linarith)
      simp only [Decimal.value] at under beyond
      rw [sub_div] at step
      push_cast at beyond
      linarith

end Interval

/-! ## The search -/

namespace Interval

variable {interval : Interval} {tie : Tie} {whole : ℤ}

theorem exists_holds_of_search (hd : 0 < interval.denominator) {count more : Nat}
    {decimal : Decimal} (found : interval.search tie whole count more = some decimal) :
    ∃ hit, interval.holds hit = true ∧ decimal.value = hit.value := by
  induction more generalizing count with
  | zero => cases found
  | succ more ih =>
      simp only [search, Option.or_eq_some_iff, Option.map_eq_some_iff] at found
      obtain ⟨hit, neighbour, rfl⟩ | ⟨-, later⟩ := found
      · exact ⟨hit, holds_of_neighbour? hd neighbour, hit.value_carried count⟩
      · exact ih later

/-- The search finds something if a neighbour lies in the interval for one of the counts. -/
theorem search_isSome {count more : Nat} (last : Nat) (from_le : count ≤ last)
    (below : last < count + more)
    (found : (interval.neighbour? tie (whole - last)).isSome = true) :
    (interval.search tie whole count more).isSome = true := by
  induction more generalizing count with
  | zero => omega
  | succ more ih =>
      simp only [search, Option.isSome_or, Option.isSome_map, Bool.or_eq_true]
      by_cases here : last = count
      · exact .inl (here ▸ found)
      · exact .inr (ih (by omega) (by omega))

end Interval

/-! ## Digits before the point -/

theorem lt_pow_length_toDigits (n : Nat) : n < 10 ^ (Nat.toDigits 10 n).length :=
  (Nat.length_toDigits_le_iff (by norm_num) Nat.length_toDigits_pos).mp le_rfl

theorem pow_length_toDigits_le {n : Nat} (positive : 0 < n) :
    10 ^ ((Nat.toDigits 10 n).length - 1) ≤ n := by
  by_contra less
  obtain one | more := Nat.eq_zero_or_pos ((Nat.toDigits 10 n).length - 1)
  · rw [one, pow_zero] at less
    omega
  · have := (Nat.length_toDigits_le_iff (by norm_num) more).mpr (not_le.mp less)
    omega

theorem Interval.wholeDigits_le {interval : Interval} (hd : 0 < interval.denominator)
    (positive : 0 < interval.value) :
    (10 : ℚ) ^ (interval.wholeDigits - 1) ≤ interval.value / interval.denominator := by
  have denominator : (0 : ℚ) < interval.denominator := by exact_mod_cast hd
  rw [le_div_iff₀ denominator]
  unfold wholeDigits
  split
  · next large =>
      have some := Nat.div_pos large hd
      have digits := pow_length_toDigits_le some
      have length := Nat.length_toDigits_pos (b := 10) (n := interval.value / interval.denominator)
      have exponent : ((Nat.toDigits 10 (interval.value / interval.denominator)).length : ℤ) - 1 =
          ((Nat.toDigits 10 (interval.value / interval.denominator)).length - 1 : ℕ) := by omega
      rw [exponent, zpow_natCast]
      exact_mod_cast (Nat.mul_le_mul_right _ digits).trans (Nat.div_mul_le_self _ _)
  · have digits := lt_pow_length_toDigits ((interval.denominator - 1) / interval.value)
    rw [Nat.div_lt_iff_lt_mul positive] at digits
    have exponent (n : ℕ) : (1 - (n : ℤ) - 1) = -(n : ℤ) := by omega
    rw [exponent, zpow_neg, zpow_natCast, inv_mul_le_iff₀ (by positivity)]
    exact_mod_cast (show interval.denominator ≤ _ by omega)

/-! ## The decimals of a stored number -/

namespace Magnitude

variable {magnitude : Magnitude}

theorem interval_denominator_pos (magnitude : Magnitude) : 0 < magnitude.interval.denominator :=
  Nat.mul_pos (by norm_num) (Nat.pow_pos (by norm_num))

/-- The numbers of the interval are kept in quarters of a step. -/
theorem interval_quotient (magnitude : Magnitude) (quarters : Nat) :
    ((quarters * Nat.pow 2 magnitude.exponent.toNat : ℕ) : ℚ) / magnitude.interval.denominator =
      quarters / 4 * 2 ^ magnitude.exponent := by
  have := scaled_quotient 2 quarters 4 (-magnitude.exponent) (by norm_num)
  rw [neg_neg] at this
  simpa [interval] using this

theorem value_interval (magnitude : Magnitude) :
    (magnitude.interval.value : ℚ) / magnitude.interval.denominator = magnitude.value := by
  have := magnitude.interval_quotient (4 * magnitude.mantissa)
  rw [interval, value] at *
  push_cast at *
  rw [this]
  ring

theorem high_interval (magnitude : Magnitude) :
    (magnitude.interval.high : ℚ) / magnitude.interval.denominator =
      (magnitude.mantissa + 1 / 2) * 2 ^ magnitude.exponent := by
  have := magnitude.interval_quotient (4 * magnitude.mantissa + 2)
  rw [interval] at *
  push_cast at *
  rw [this]
  ring

variable (positive : 0 < magnitude.mantissa)
include positive

theorem low_interval :
    (magnitude.interval.low : ℚ) / magnitude.interval.denominator =
      (magnitude.mantissa - magnitude.gap) * 2 ^ magnitude.exponent := by
  have := magnitude.interval_quotient (4 * magnitude.mantissa - if magnitude.atEdge then 1 else 2)
  rw [Nat.cast_sub (by split <;> omega)] at this
  rw [gap]
  rw [interval] at *
  push_cast at *
  rw [this]
  split <;> ring

theorem holds_interval_iff (decimal : Decimal) :
    magnitude.interval.holds decimal = true ↔ magnitude.Covers decimal.value := by
  have closed : magnitude.interval.closed = false ↔ magnitude.mantissa % 2 = 1 := by
    simp [interval]
  rw [Interval.holds_iff magnitude.interval_denominator_pos, low_interval positive, high_interval,
    closed]
  exact ⟨fun ⟨low, high, odd⟩ => ⟨low, high, odd⟩, fun ⟨low, high, odd⟩ => ⟨low, high, odd⟩⟩

/-- The shortest decimal of a double rounds to it. -/
theorem covers_shortest (tie : Tie) (stores : Format.double.Stores magnitude) :
    magnitude.Covers (magnitude.shortest tie).value := by
  have hd := magnitude.interval_denominator_pos
  have denominator : (0 : ℚ) < magnitude.interval.denominator := by exact_mod_cast hd
  have scale : 0 < Nat.pow 2 magnitude.exponent.toNat := Nat.pow_pos (by norm_num)
  have two := two_zpow_pos magnitude.exponent
  have low : magnitude.interval.low < magnitude.interval.value := by
    refine Nat.mul_lt_mul_of_pos_right ?_ scale
    split <;> omega
  have high : magnitude.interval.value < magnitude.interval.high :=
    Nat.mul_lt_mul_of_pos_right (by omega) scale
  have whole := Interval.wholeDigits_le hd (Nat.mul_pos (by omega) scale)
  -- a grid with seventeen digits has steps that are narrower than the interval
  have step : (10 : ℚ) ^ (magnitude.interval.wholeDigits - (17 : ℕ)) <
      (magnitude.interval.high - magnitude.interval.low) / magnitude.interval.denominator := by
    rw [sub_div, high_interval, low_interval positive]
    rw [value_interval, value] at whole
    have split : magnitude.interval.wholeDigits - (17 : ℕ) =
        magnitude.interval.wholeDigits - 1 - 16 := by omega
    rw [split, zpow_sub₀ (by norm_num)]
    have narrow : (magnitude.mantissa : ℚ) < (magnitude.gap + 1 / 2) * 10 ^ (16 : ℤ) := by
      unfold gap
      split
      · next edge =>
          rw [(stores.edge.mp edge).1]
          norm_num [Format.double]
      · have width : (magnitude.mantissa : ℚ) < 2 ^ 53 := by exact_mod_cast stores.width
        norm_num at width ⊢
        linarith
    calc (10 : ℚ) ^ (magnitude.interval.wholeDigits - 1) / 10 ^ (16 : ℤ)
        ≤ magnitude.mantissa * 2 ^ magnitude.exponent / 10 ^ (16 : ℤ) := by gcongr
      _ < (magnitude.gap + 1 / 2) * 10 ^ (16 : ℤ) * 2 ^ magnitude.exponent / 10 ^ (16 : ℤ) := by
        gcongr
      _ = _ := by
        field_simp
        ring
  have found : (magnitude.interval.search tie magnitude.interval.wholeDigits 1 17).isSome = true :=
    Interval.search_isSome 17 (by omega) (by omega)
      (Interval.neighbour?_isSome hd tie low high step)
  obtain ⟨decimal, hit⟩ := Option.isSome_iff_exists.mp found
  obtain ⟨other, holds, same⟩ := Interval.exists_holds_of_search hd hit
  rw [shortest, if_neg positive.ne']
  simp only [hit, Option.getD_some, same]
  exact (holds_interval_iff positive other).mp holds

end Magnitude

end InferenceBench.Numeral
