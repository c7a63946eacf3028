import InferenceBench.Proofs.Numeral.Double

/-! # Rounding to stored numbers

A stored number is the nearest one to every quotient of an interval around it. The ends lie half a
step away, below an edge a quarter, and belong to the interval if the mantissa is even. For each of
these quotients the rounding gives the bits of the stored number.
-/

namespace InferenceBench.Numeral

/-! ## Quotients -/

theorem toNat_pow (base : ℕ) (k : ℤ) (hbase : 0 < base) :
    ((Nat.pow base k.toNat : ℕ) : ℚ) = (Nat.pow base (-k).toNat : ℕ) * (base : ℚ) ^ k := by
  have nonzero : (base : ℚ) ≠ 0 := by positivity
  obtain le | le := Int.le_total 0 k
  · obtain ⟨n, rfl⟩ := Int.eq_ofNat_of_zero_le le
    simp
  · obtain ⟨n, hn⟩ := Int.eq_ofNat_of_zero_le (Int.neg_nonneg_of_nonpos le)
    obtain rfl : k = -n := by omega
    simp [nonzero]

/-- A power that a quotient is multiplied with, or divided by where its exponent is negative. -/
theorem scaled_quotient (base numerator denominator : ℕ) (k : ℤ) (hbase : 0 < base) :
    ((numerator * Nat.pow base (-k).toNat : ℕ) : ℚ) / (denominator * Nat.pow base k.toNat : ℕ) =
      numerator / denominator / (base : ℚ) ^ k := by
  have nonzero : ((Nat.pow base (-k).toNat : ℕ) : ℚ) ≠ 0 := by
    have := Nat.pow_pos hbase (n := (-k).toNat)
    exact_mod_cast this.ne'
  rw [Nat.cast_mul, Nat.cast_mul, toNat_pow base k hbase]
  field_simp

theorem two_zpow_pos (k : ℤ) : (0 : ℚ) < 2 ^ k := zpow_pos (by norm_num) k

theorem two_zpow_succ (k : ℤ) : (2 : ℚ) ^ (k + 1) = 2 * 2 ^ k := by
  rw [zpow_add₀ (by norm_num), zpow_one, mul_comm]

section LeadingPower

variable {numerator denominator : ℕ} (hn : 0 < numerator) (hd : 0 < denominator)
include hn hd

theorem leadingPower_bounds :
    (2 : ℚ) ^ leadingPower numerator denominator ≤ numerator / denominator ∧
      (numerator : ℚ) / denominator < 2 ^ (leadingPower numerator denominator + 1) := by
  have positive : (0 : ℚ) < denominator := by exact_mod_cast hd
  have bounds (n : ℕ) (h : 0 < n) :
      (2 : ℚ) ^ (n.log2 : ℤ) ≤ n ∧ (n : ℚ) < 2 ^ (n.log2 + 1 : ℤ) := by
    have low := Nat.log2_self_le h.ne'
    have high := Nat.lt_log2_self (n := n)
    constructor
    · exact_mod_cast low
    · exact_mod_cast high
  obtain ⟨lowN, highN⟩ := bounds numerator hn
  obtain ⟨lowD, highD⟩ := bounds denominator hd
  set guess : ℤ := (numerator.log2 : ℤ) - denominator.log2 with guess_eq
  have above : (numerator : ℚ) / denominator < 2 ^ (guess + 1) := by
    rw [div_lt_iff₀ positive]
    calc (numerator : ℚ) < 2 ^ ((numerator.log2 : ℤ) + 1) := highN
      _ = 2 ^ (guess + 1) * 2 ^ (denominator.log2 : ℤ) := by
        rw [← zpow_add₀ (by norm_num)]
        congr 1
        omega
      _ ≤ 2 ^ (guess + 1) * denominator := by gcongr
  have below : (2 : ℚ) ^ (guess - 1) ≤ numerator / denominator := by
    rw [le_div_iff₀ positive]
    calc (2 : ℚ) ^ (guess - 1) * denominator
        ≤ 2 ^ (guess - 1) * 2 ^ ((denominator.log2 : ℤ) + 1) := by gcongr
      _ = 2 ^ (numerator.log2 : ℤ) := by
        rw [← zpow_add₀ (by norm_num)]
        congr 1
        omega
      _ ≤ numerator := lowN
  have test : denominator * Nat.pow 2 guess.toNat ≤ numerator * Nat.pow 2 (-guess).toNat ↔
      (2 : ℚ) ^ guess ≤ numerator / denominator := by
    have scale : (0 : ℚ) < (denominator * Nat.pow 2 guess.toNat : ℕ) := by
      exact_mod_cast Nat.mul_pos hd (Nat.pow_pos (by norm_num))
    rw [← Nat.cast_le (α := ℚ), ← one_le_div scale,
      scaled_quotient 2 numerator denominator guess (by norm_num), Nat.cast_ofNat,
      one_le_div (two_zpow_pos guess)]
  simp only [leadingPower, ← guess_eq]
  split
  · next fits => exact ⟨test.mp fits, above⟩
  · next fits =>
      rw [sub_add_cancel]
      exact ⟨below, not_le.mp (mt test.mpr fits)⟩

theorem le_leadingPower_iff {k : ℤ} :
    k ≤ leadingPower numerator denominator ↔ (2 : ℚ) ^ k ≤ numerator / denominator := by
  obtain ⟨low, high⟩ := leadingPower_bounds hn hd
  constructor
  · intro le
    exact (zpow_le_zpow_right₀ (by norm_num) le).trans low
  · intro le
    have := (zpow_lt_zpow_iff_right₀ (by norm_num)).mp (le.trans_lt high)
    omega

theorem leadingPower_lt_iff {k : ℤ} :
    leadingPower numerator denominator < k ↔ (numerator : ℚ) / denominator < 2 ^ k := by
  rw [← not_le, le_leadingPower_iff hn hd, not_le]

end LeadingPower

/-- The integer that is nearest to the quotient, if it is even where another one is as near. -/
theorem roundHalfEven_eq {numerator denominator n : ℕ} (hd : 0 < denominator)
    (low : (n : ℚ) - 1 / 2 ≤ numerator / denominator)
    (high : (numerator : ℚ) / denominator ≤ n + 1 / 2)
    (odd : n % 2 = 1 → (n : ℚ) - 1 / 2 < numerator / denominator ∧
      (numerator : ℚ) / denominator < n + 1 / 2) :
    roundHalfEven numerator denominator = n := by
  have positive : (0 : ℚ) < denominator := by exact_mod_cast hd
  rw [le_div_iff₀ positive] at low
  rw [div_le_iff₀ positive] at high
  rw [lt_div_iff₀ positive, div_lt_iff₀ positive] at odd
  have low : 2 * (n * denominator) ≤ 2 * numerator + denominator := by
    have : (2 * (n * denominator) : ℚ) ≤ 2 * numerator + denominator := by linarith
    exact_mod_cast this
  have high : 2 * numerator ≤ 2 * (n * denominator) + denominator := by
    have : (2 * numerator : ℚ) ≤ 2 * (n * denominator) + denominator := by linarith
    exact_mod_cast this
  have odd : n % 2 = 1 → 2 * (n * denominator) < 2 * numerator + denominator ∧
      2 * numerator < 2 * (n * denominator) + denominator := by
    intro isOdd
    obtain ⟨lower, upper⟩ := odd isOdd
    have lower : (2 * (n * denominator) : ℚ) < 2 * numerator + denominator := by linarith
    have upper : (2 * numerator : ℚ) < 2 * (n * denominator) + denominator := by linarith
    exact ⟨by exact_mod_cast lower, by exact_mod_cast upper⟩
  have split := Nat.div_add_mod numerator denominator
  have rest := Nat.mod_lt numerator hd
  simp only [roundHalfEven]
  generalize numerator / denominator = quotient at *
  generalize numerator % denominator = remainder at *
  -- the nearest integer is the quotient or the next one
  have atLeast : quotient ≤ n := by
    by_contra less
    have : (n + 1) * denominator ≤ quotient * denominator := by gcongr; omega
    rw [Nat.add_mul, Nat.mul_comm quotient] at this
    omega
  have atMost : n ≤ quotient + 1 := by
    by_contra more
    have : (quotient + 2) * denominator ≤ n * denominator := by gcongr; omega
    rw [Nat.add_mul, Nat.mul_comm quotient] at this
    omega
  obtain rfl | rfl : n = quotient ∨ n = quotient + 1 := by omega
  · rw [Nat.mul_comm] at split
    split
    · rfl
    · split <;> omega
  · rw [Nat.add_mul, Nat.mul_comm quotient] at low high odd
    split
    · omega
    · split <;> omega

/-! ## Stored numbers -/

namespace Magnitude

/-- The number that the magnitude stands for. -/
def value (magnitude : Magnitude) : ℚ := magnitude.mantissa * 2 ^ magnitude.exponent

/-- The part of a step that separates the number from those that round to the next smaller one. -/
def gap (magnitude : Magnitude) : ℚ := if magnitude.atEdge then 1 / 4 else 1 / 2

theorem gap_le (magnitude : Magnitude) : magnitude.gap ≤ 1 / 2 := by
  unfold gap
  split <;> norm_num

/-- The numbers that round to a stored one. -/
structure Covers (magnitude : Magnitude) (x : ℚ) : Prop where
  low : (magnitude.mantissa - magnitude.gap) * 2 ^ magnitude.exponent ≤ x
  high : x ≤ (magnitude.mantissa + 1 / 2) * 2 ^ magnitude.exponent
  odd : magnitude.mantissa % 2 = 1 →
    (magnitude.mantissa - magnitude.gap) * 2 ^ magnitude.exponent < x ∧
      x < (magnitude.mantissa + 1 / 2) * 2 ^ magnitude.exponent

end Magnitude

namespace Format

/-- The magnitudes that a format stores: all mantissas but those of the smallest exponent have their
full width, and the narrowest of these stand at an edge. -/
structure Stores (format : Format) (magnitude : Magnitude) : Prop where
  least : format.leastExponent ≤ magnitude.exponent
  width : magnitude.mantissa < 2 ^ (format.fractionBits + 1)
  full : format.leastExponent < magnitude.exponent → 2 ^ format.fractionBits ≤ magnitude.mantissa
  edge : magnitude.atEdge = true ↔
    magnitude.mantissa = 2 ^ format.fractionBits ∧ format.leastExponent < magnitude.exponent

/-- The bits of a stored magnitude, without sign. -/
def bits (format : Format) (magnitude : Magnitude) : Nat :=
  (magnitude.exponent - format.leastExponent).toNat * Nat.pow 2 format.fractionBits +
    magnitude.mantissa

variable {format : Format} {magnitude : Magnitude}

theorem roundHalfEven_of_covers {numerator denominator : Nat} (hd : 0 < denominator)
    (covers : magnitude.Covers (numerator / denominator)) :
    roundHalfEven (numerator * Nat.pow 2 (-magnitude.exponent).toNat)
        (denominator * Nat.pow 2 magnitude.exponent.toNat) = magnitude.mantissa := by
  have step := two_zpow_pos magnitude.exponent
  have gap := magnitude.gap_le
  obtain ⟨low, high, odd⟩ := covers
  rw [← le_div_iff₀ step] at low
  rw [← div_le_iff₀ step] at high
  rw [← lt_div_iff₀ step, ← div_lt_iff₀ step] at odd
  refine roundHalfEven_eq (Nat.mul_pos hd (Nat.pow_pos (by norm_num))) ?_ ?_ ?_ <;>
    rw [scaled_quotient 2 _ _ _ (by norm_num)]
  · push_cast
    linarith
  · exact_mod_cast high
  · intro isOdd
    obtain ⟨lower, upper⟩ := odd isOdd
    push_cast
    exact ⟨by linarith, upper⟩

/-- Below an edge the rounding finds the power of two that ends the narrower steps there. -/
theorem roundHalfEven_of_covers_edge {numerator denominator : Nat} (hd : 0 < denominator)
    (covers : magnitude.Covers (numerator / denominator)) (atEdge : magnitude.atEdge = true)
    (below : (numerator : ℚ) / denominator < magnitude.value) :
    roundHalfEven (numerator * Nat.pow 2 (-(magnitude.exponent - 1)).toNat)
        (denominator * Nat.pow 2 (magnitude.exponent - 1).toNat) = 2 * magnitude.mantissa := by
  have step := two_zpow_pos (magnitude.exponent - 1)
  have twice := two_zpow_succ (magnitude.exponent - 1)
  rw [sub_add_cancel] at twice
  have low := covers.low
  simp only [Magnitude.gap, atEdge, if_true, twice] at low
  simp only [Magnitude.value, twice] at below
  refine roundHalfEven_eq (Nat.mul_pos hd (Nat.pow_pos (by norm_num))) ?_ ?_ (by omega) <;>
    rw [scaled_quotient 2 _ _ _ (by norm_num)] <;> push_cast
  · rw [le_div_iff₀ step]
    linarith
  · rw [div_le_iff₀ step]
    linarith

section Covers

variable {numerator denominator : Nat} (hd : 0 < denominator)
  (covers : magnitude.Covers (numerator / denominator))

include covers in
theorem numerator_pos_of_covers (positive : 0 < magnitude.mantissa) : 0 < numerator := by
  by_contra zero
  obtain rfl : numerator = 0 := by omega
  have step := two_zpow_pos magnitude.exponent
  have gap := magnitude.gap_le
  have mantissa : (1 : ℚ) ≤ magnitude.mantissa := by exact_mod_cast positive
  have low := covers.low
  simp only [Nat.cast_zero, zero_div] at low
  nlinarith

include hd covers

theorem leadingPower_lt_of_covers (hn : 0 < numerator) {width : Nat}
    (lt : magnitude.mantissa < 2 ^ width) :
    leadingPower numerator denominator < width + magnitude.exponent := by
  have step := two_zpow_pos magnitude.exponent
  rw [leadingPower_lt_iff hn hd, zpow_add₀ (by norm_num), zpow_natCast]
  have lt : (magnitude.mantissa : ℚ) + 1 ≤ 2 ^ width := by exact_mod_cast lt
  calc (numerator : ℚ) / denominator ≤ (magnitude.mantissa + 1 / 2) * 2 ^ magnitude.exponent :=
        covers.high
    _ < 2 ^ width * 2 ^ magnitude.exponent := by nlinarith

theorem le_leadingPower_of_covers (hn : 0 < numerator) {k : ℤ}
    (le : (2 : ℚ) ^ k ≤ magnitude.mantissa - magnitude.gap) :
    k + magnitude.exponent ≤ leadingPower numerator denominator := by
  have step := two_zpow_pos magnitude.exponent
  rw [le_leadingPower_iff hn hd, zpow_add₀ (by norm_num)]
  exact (mul_le_mul_of_nonneg_right le step.le).trans covers.low

/-- Only below an edge the rounding happens at the next lower exponent. -/
theorem edge_of_covers (stores : format.Stores magnitude) (hn : 0 < numerator)
    (other : max (leadingPower numerator denominator - format.fractionBits)
      format.leastExponent ≠ magnitude.exponent) :
    magnitude.mantissa = 2 ^ format.fractionBits ∧ format.leastExponent < magnitude.exponent ∧
      max (leadingPower numerator denominator - format.fractionBits) format.leastExponent =
        magnitude.exponent - 1 ∧
      (numerator : ℚ) / denominator < magnitude.value := by
  have gap := magnitude.gap_le
  have within := leadingPower_lt_of_covers hd covers hn stores.width
  have least := stores.least
  have above : format.leastExponent < magnitude.exponent := by omega
  have below : leadingPower numerator denominator < format.fractionBits + magnitude.exponent := by
    omega
  have power : magnitude.mantissa = 2 ^ format.fractionBits := by
    by_contra other
    have more : 2 ^ format.fractionBits + 1 ≤ magnitude.mantissa := by
      have := stores.full above
      omega
    have more : (2 ^ format.fractionBits + 1 : ℚ) ≤ magnitude.mantissa := by exact_mod_cast more
    have := @le_leadingPower_of_covers _ _ _ hd covers hn format.fractionBits
      (by rw [zpow_natCast]; linarith)
    omega
  have atLeast := @le_leadingPower_of_covers _ _ _ hd covers hn (format.fractionBits - 1) (by
    rw [zpow_sub₀ (by norm_num), zpow_natCast, zpow_one]
    have one : (1 : ℚ) ≤ 2 ^ format.fractionBits := one_le_pow₀ (by norm_num)
    have : (magnitude.mantissa : ℚ) = 2 ^ format.fractionBits := by exact_mod_cast power
    linarith)
  refine ⟨power, above, by omega, ?_⟩
  rw [leadingPower_lt_iff hn hd, zpow_add₀ (by norm_num), zpow_natCast] at below
  simpa [Magnitude.value, power] using below

/-- Every number that rounds to a stored one has its bits as the nearest. -/
theorem nearestBits_of_covers (stores : format.Stores magnitude)
    (positive : 0 < magnitude.mantissa) (finite : format.bits magnitude < format.infinityBits) :
    format.nearestBits numerator denominator = format.bits magnitude := by
  have hn := numerator_pos_of_covers covers positive
  simp only [nearestBits, if_neg hn.ne']
  by_cases same : max (leadingPower numerator denominator - format.fractionBits)
      format.leastExponent = magnitude.exponent
  · rw [same, roundHalfEven_of_covers hd covers]
    exact min_eq_left finite.le
  · obtain ⟨power, above, lower, less⟩ := edge_of_covers hd covers stores hn same
    have atEdge : magnitude.atEdge = true := stores.edge.mpr ⟨power, above⟩
    have next : (magnitude.exponent - 1 - format.leastExponent).toNat + 1 =
        (magnitude.exponent - format.leastExponent).toNat := by omega
    have bits_eq : (magnitude.exponent - 1 - format.leastExponent).toNat *
        Nat.pow 2 format.fractionBits + 2 * magnitude.mantissa = format.bits magnitude := by
      rw [bits, ← next, power]
      simp only [Nat.pow_eq]
      ring
    rw [lower, roundHalfEven_of_covers_edge hd covers atEdge less, bits_eq]
    exact min_eq_left finite.le

end Covers

theorem decode_finite {word : Nat} {negative : Bool}
    (stored : format.decode word = .finite negative magnitude) :
    format.Stores magnitude ∧ format.bits magnitude < format.infinityBits ∧
      format.bits magnitude = word % 2 ^ (format.fractionBits + format.exponentBits) ∧
      negative = (word / 2 ^ (format.fractionBits + format.exponentBits) % 2 == 1) := by
  have short : word % 2 ^ format.fractionBits < 2 ^ format.fractionBits :=
    Nat.mod_lt _ (by positivity)
  have narrow : word / 2 ^ format.fractionBits % 2 ^ format.exponentBits <
      2 ^ format.exponentBits := Nat.mod_lt _ (by positivity)
  have word_eq : word % 2 ^ (format.fractionBits + format.exponentBits) =
      word % 2 ^ format.fractionBits + 2 ^ format.fractionBits *
        (word / 2 ^ format.fractionBits % 2 ^ format.exponentBits) := by
    rw [Nat.pow_add, Nat.mod_mul]
  have twice : 2 ^ (format.fractionBits + 1) = 2 * 2 ^ format.fractionBits := Nat.pow_succ'
  simp only [decode, Nat.pow_eq] at stored
  split at stored
  · split at stored <;> cases stored
  · next below =>
      have finite : (word / 2 ^ format.fractionBits % 2 ^ format.exponentBits + 1) *
          2 ^ format.fractionBits ≤ format.infinityBits := by
        unfold infinityBits
        simp only [Nat.pow_eq]
        gcongr
        omega
      rw [word_eq]
      generalize word % 2 ^ format.fractionBits = fraction at *
      generalize word / 2 ^ format.fractionBits % 2 ^ format.exponentBits = field at *
      rw [Nat.add_mul, Nat.mul_comm field] at finite
      split at stored
      · next zero =>
          cases stored
          have sum : format.bits ⟨fraction, format.leastExponent, false⟩ = fraction := by
            simp [bits]
          refine ⟨⟨le_rfl, ?_, fun less => absurd less (lt_irrefl _), by simp⟩, ?_, ?_, rfl⟩
          · simp only
            omega
          · omega
          · rw [sum, zero]
            omega
      · next some =>
          cases stored
          have sum : format.bits ⟨2 ^ format.fractionBits + fraction,
              format.leastExponent + (field - 1 : Nat), fraction == 0 && 1 < field⟩ =
              2 ^ format.fractionBits * field + fraction := by
            obtain ⟨before, rfl⟩ := Nat.exists_eq_succ_of_ne_zero some
            simp [bits]
            ring
          refine ⟨⟨?_, ?_, fun _ => Nat.le_add_right _ _, ?_⟩, ?_, ?_, rfl⟩
          · simp only
            omega
          · simp only
            omega
          · simp
          · omega
          · omega

end Format

/-! ## Doubles -/

section Doubles

variable {x : Float} {negative : Bool} {magnitude : Magnitude}
  (finite : x.isFinite = true) (stored : ofDouble x = .finite negative magnitude)
include finite stored

theorem nearestDouble_of_bits {numerator denominator : Nat}
    (same : Format.double.nearestBits numerator denominator = Format.double.bits magnitude) :
    nearestDouble negative numerator denominator = x := by
  obtain ⟨-, -, parts, sign⟩ := Format.decode_finite stored
  have word : (if negative then Format.double.bits magnitude + 0x8000000000000000
      else Format.double.bits magnitude) = x.toBits.toNat := by
    have below := x.toBits.toNat_lt
    have parts : Format.double.bits magnitude = x.toBits.toNat % 0x8000000000000000 := parts
    have sign : negative = (x.toBits.toNat / 0x8000000000000000 % 2 == 1) := sign
    cases negative with
    | true =>
        have := beq_iff_eq.mp sign.symm
        simp only [if_true]
        omega
    | false =>
        have := beq_eq_false_iff_ne.mp sign.symm
        simp only [Bool.false_eq_true, if_false]
        omega
  rw [nearestDouble, same, word, UInt64.ofNat_toNat, ofBits_toBits finite]

theorem nearestDouble_of_covers (positive : 0 < magnitude.mantissa) {numerator denominator : Nat}
    (hd : 0 < denominator) (covers : magnitude.Covers (numerator / denominator)) :
    nearestDouble negative numerator denominator = x := by
  obtain ⟨stores, bounded, -⟩ := Format.decode_finite stored
  exact nearestDouble_of_bits finite stored
    (Format.nearestBits_of_covers hd covers stores positive bounded)

theorem nearestDouble_zero (zero : magnitude.mantissa = 0) : nearestDouble negative 0 1 = x := by
  obtain ⟨stores, -⟩ := Format.decode_finite stored
  have least : magnitude.exponent = Format.double.leastExponent := by
    by_contra other
    have := stores.full (lt_of_le_of_ne stores.least (Ne.symm other))
    rw [zero] at this
    exact absurd this (by decide)
  refine nearestDouble_of_bits finite stored ?_
  simp [Format.bits, Format.nearestBits, zero, least]

end Doubles

end InferenceBench.Numeral
