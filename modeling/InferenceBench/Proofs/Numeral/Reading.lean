import InferenceBench.Numeral.Layout
import InferenceBench.Numeral.Reading
import InferenceBench.Proofs.Numeral.Fixed
import InferenceBench.Proofs.Numeral.Shortest
import InferenceBench.Proofs.Text.Split

/-! # Written numbers read back

A number is written as digits, a fraction and an exponent, of which the last two may be missing.
However the digits are laid out, these parts stand for the decimal that was written, and reading
rounds that decimal. So a finite double is read back from its shortest decimal.
-/

namespace InferenceBench.Numeral

/-! ## Digits -/

theorem ofDigits_eq (digits : List Char) : ofDigits digits = Nat.ofDigitChars 10 digits 0 := by
  simp only [ofDigits, Nat.ofDigitChars, Nat.mul_comm]

@[simp]
theorem ofDigits_digitText (n : Nat) : ofDigits (digitText n) = n := by
  rw [ofDigits_eq]
  exact Nat.ofDigitChars_ten_toDigits

theorem ofDigits_append (digits more : List Char) :
    ofDigits (digits ++ more) = ofDigits digits * 10 ^ more.length + ofDigits more := by
  rw [ofDigits_eq, ofDigits_eq, ofDigits_eq, Nat.ofDigitChars_append,
    Nat.ofDigitChars_eq_ofDigitChars_zero, Nat.mul_comm]

@[simp]
theorem ofDigits_zeros (count : Nat) : ofDigits (List.replicate count '0') = 0 := by
  simp [ofDigits_eq]

theorem head_digitText {n : Nat} (positive : 0 < n) : (digitText n).head? ≠ some '0' := by
  induction n using Nat.strongRecOn with
  | ind n ih =>
      obtain small | large := Nat.lt_or_ge n 10
      · rw [digitText, Nat.toDigits_of_lt_base small]
        have digits : ∀ digit < 10, 0 < digit → [Nat.digitChar digit].head? ≠ some '0' := by decide
        exact digits n small positive
      · have := ih (n / 10) (Nat.div_lt_self positive (by decide)) (Nat.div_pos large (by decide))
        rw [digitText, Nat.toDigits_of_base_le (by decide) large,
          List.head?_append_of_ne_nil _ Nat.toDigits_ne_nil]
        exact this

/-! ## The parts of a number -/

/-- The parts of a number without sign. -/
structure Parts where
  whole : List Char
  fraction : List Char
  exponent : Option ℤ

namespace Parts

/-- An exponent is written with its sign. -/
def exponentText : Option ℤ → List Char
  | none => []
  | some exponent => 'e' :: (if exponent < 0 then '-' else '+') :: digitText exponent.natAbs

def fractionText (fraction : List Char) : List Char :=
  if fraction.isEmpty then [] else '.' :: fraction

def text (parts : Parts) : List Char :=
  parts.whole ++ (fractionText parts.fraction ++ exponentText parts.exponent)

/-- The decimal that the parts stand for. -/
def decimal (parts : Parts) : Decimal :=
  ⟨ofDigits (parts.whole ++ parts.fraction), parts.exponent.getD 0 - parts.fraction.length⟩

/-- The parts of a number in a document: there is a digit before the point, and it is no zero that
further digits follow. -/
structure Valid (parts : Parts) : Prop where
  whole : ∀ c ∈ parts.whole, c.isDigit = true
  fraction : ∀ c ∈ parts.fraction, c.isDigit = true
  some : parts.whole ≠ []
  leading : parts.whole.head? = Option.some '0' → parts.whole = ['0']

variable {parts : Parts}

theorem head_exponentText (exponent : Option ℤ) :
    ∀ c ∈ (exponentText exponent).head?, c.isDigit = false := by
  cases exponent <;> simp [exponentText]

theorem head_tail (fraction : List Char) (exponent : Option ℤ) :
    ∀ c ∈ (fractionText fraction ++ exponentText exponent).head?, c.isDigit = false := by
  unfold fractionText
  split
  · exact head_exponentText exponent
  · simp

theorem readExponent?_exponentText (exponent : Option ℤ) :
    readExponent? (exponentText exponent) = some (exponent.getD 0) := by
  cases exponent with
  | none => rfl
  | some exponent =>
      have digits : (digitText exponent.natAbs).all Char.isDigit = true :=
        List.all_eq_true.mpr fun _ => isDigit_of_mem_digitText
      have nonempty : (digitText exponent.natAbs).isEmpty = false := by
        simp [List.isEmpty_eq_false_iff, digitText_ne_nil]
      have natural : readNatural? ('+' :: digitText exponent.natAbs) = some exponent.natAbs := by
        simp [readNatural?, nonempty, digits]
      simp only [exponentText, readExponent?, decide_true, Bool.true_or, if_true, Option.getD_some]
      split
      · simp only [readInteger?, nonempty, digits, Bool.not_false, Bool.and_self, if_true,
          ofDigits_digitText]
        congr 1
        omega
      · change (readNatural? ('+' :: digitText exponent.natAbs)).map Int.ofNat = some exponent
        rw [natural, Option.map_some]
        congr 1
        change (exponent.natAbs : ℤ) = exponent
        omega

theorem toLower_of_isDigit {c : Char} (digit : c.isDigit = true) : c.toLower = c := by
  have notUpper : ¬ (c.val ≥ 'A'.val ∧ c.val ≤ 'Z'.val) := by
    simp only [Char.isDigit, Bool.and_eq_true, decide_eq_true_eq] at digit
    have := UInt32.le_iff_toNat_le.mp digit.2
    rintro ⟨upper, -⟩
    have := UInt32.le_iff_toNat_le.mp upper
    simp at *
    omega
  exact dif_neg notUpper

/-- The digits after a point, if there is one, and what follows them. -/
def cutFraction (tail : List Char) : List Char × List Char :=
  match tail with
  | '.' :: rest => (rest.takeWhile Char.isDigit, rest.dropWhile Char.isDigit)
  | _ => ([], tail)

theorem cutFraction_tail {fraction : List Char} (areDigits : ∀ c ∈ fraction, c.isDigit = true)
    (exponent : Option ℤ) :
    cutFraction (fractionText fraction ++ exponentText exponent) =
      (fraction, exponentText exponent) := by
  cases fraction with
  | nil => cases exponent <;> rfl
  | cons c digits =>
      have boundary := head_exponentText exponent
      change (((c :: digits) ++ exponentText exponent).takeWhile Char.isDigit,
        ((c :: digits) ++ exponentText exponent).dropWhile Char.isDigit) = _
      rw [Text.takeWhile_boundary areDigits boundary, Text.dropWhile_boundary areDigits boundary]

/-- The parts of a number are found again in its text. -/
theorem Valid.readUnsignedDouble? (valid : parts.Valid) (negative : Bool) :
    Numeral.readUnsignedDouble? negative parts.text =
      Option.some (doubleOfDecimal negative parts.decimal.digits parts.decimal.exponent) := by
  have whole := Text.takeWhile_boundary valid.whole (head_tail parts.fraction parts.exponent)
  have rest := Text.dropWhile_boundary valid.whole (head_tail parts.fraction parts.exponent)
  have notName {name : List Char} (letter : ∀ c ∈ name.head?, c.isDigit = false)
      (isName : parts.text.map Char.toLower = name) : False := by
    obtain ⟨c, digits, same⟩ := List.exists_cons_of_ne_nil valid.some
    have digit := valid.whole c (by simp [same])
    rw [text, same, List.cons_append, List.map_cons, toLower_of_isDigit digit] at isName
    subst isName
    simp [digit] at letter
  have nonempty : parts.whole.isEmpty = false := by
    simp [List.isEmpty_eq_false_iff, valid.some]
  unfold Numeral.readUnsignedDouble?
  split
  · next isName => exact (notName (by simp) isName).elim
  · next isName => exact (notName (by simp) isName).elim
  · next isName => exact (notName (by simp) isName).elim
  · simp only [text, whole, rest, nonempty, Bool.false_and, Bool.false_eq_true, if_false]
    have cut := cutFraction_tail valid.fraction parts.exponent
    generalize fractionText parts.fraction ++ exponentText parts.exponent = tail at cut ⊢
    change (readExponent? (cutFraction tail).2).map (fun exponent => doubleOfDecimal negative
      (ofDigits (parts.whole ++ (cutFraction tail).1))
      (exponent - (cutFraction tail).1.length)) = _
    rw [cut, readExponent?_exponentText]
    rfl

theorem value_shift (digits : Nat) (count : Nat) (exponent : ℤ) :
    Decimal.value ⟨digits * 10 ^ count, exponent - count⟩ = Decimal.value ⟨digits, exponent⟩ := by
  simp only [Decimal.value, Nat.cast_mul, Nat.cast_pow, Nat.cast_ofNat]
  rw [zpow_sub₀ (by norm_num), zpow_natCast]
  field_simp

/-- What the parts of a document's number have to do with a decimal. -/
structure Spells (parts : Parts) (decimal : Decimal) : Prop where
  valid : parts.Valid
  value : parts.decimal.value = decimal.value
  marked : parts.fraction ≠ [] ∨ parts.exponent ≠ none

theorem isDigit_of_mem_zeros (count : Nat) :
    ∀ c ∈ List.replicate count '0', c.isDigit = true := by
  intro c member
  rw [List.eq_of_mem_replicate member]
  rfl

variable {digits : List Char} (areDigits : ∀ c ∈ digits, c.isDigit = true) (nonempty : digits ≠ [])
include areDigits nonempty

/-- All digits stand before the point, after them the zeros that are missing. -/
theorem spells_beforePoint (leading : digits.head? = some '0' → digits = ['0'])
    {whole : ℤ} (zero : digits = ['0'] → whole ≤ 1) (long : digits.length ≤ whole) :
    Spells ⟨digits ++ List.replicate (whole.toNat - digits.length) '0', ['0'], none⟩
      ⟨ofDigits digits, whole - digits.length⟩ where
  valid :=
    { whole := List.forall_mem_append.mpr ⟨areDigits, isDigit_of_mem_zeros _⟩
      fraction := by simp
      some := by simp [nonempty]
      leading := fun first => by
        rw [List.head?_append_of_ne_nil _ nonempty] at first
        have only := leading first
        have none : whole.toNat - digits.length = 0 := by
          have := zero only
          have := List.length_pos_iff.mpr nonempty
          omega
        change digits ++ List.replicate (whole.toNat - digits.length) '0' = ['0']
        rw [none, only]
        rfl }
  value := by
    have digits_eq : ofDigits (digits ++ List.replicate (whole.toNat - digits.length) '0' ++
        ['0']) = ofDigits digits * 10 ^ (whole.toNat - digits.length + 1) := by
      have last : ofDigits ['0'] = 0 := rfl
      rw [ofDigits_append, ofDigits_append, ofDigits_zeros, last, pow_succ]
      simp [Nat.mul_assoc]
    have exponent : (0 : ℤ) - (1 : ℕ) = whole - digits.length -
        (whole.toNat - digits.length + 1 : ℕ) := by omega
    simp only [decimal, digits_eq, Option.getD_none, List.length_singleton]
    rw [exponent, value_shift]
  marked := .inl (by simp)

/-- The point stands between the digits. -/
theorem spells_aroundPoint (leading : digits.head? = some '0' → digits = ['0'])
    {whole : ℤ} (positive : 0 < whole) (short : whole < digits.length) :
    Spells ⟨digits.take whole.toNat, digits.drop whole.toNat, none⟩
      ⟨ofDigits digits, whole - digits.length⟩ where
  valid :=
    { whole := fun c member => areDigits c (List.mem_of_mem_take member)
      fraction := fun c member => areDigits c (List.mem_of_mem_drop member)
      some := by
        simp [nonempty]
        omega
      leading := fun first => by
        rw [List.head?_take, if_neg (by omega)] at first
        have only := leading first
        rw [only] at short
        simp at short
        omega }
  value := by
    simp only [decimal, List.take_append_drop, Option.getD_none, List.length_drop]
    congr 2
    omega
  marked := by
    have few : whole.toNat < digits.length := by omega
    exact .inl (by simpa using few)

/-- All digits stand after the point, before them the zeros that are missing. -/
theorem spells_afterPoint {whole : ℤ} (none : whole ≤ 0) :
    Spells ⟨['0'], List.replicate (-whole).toNat '0' ++ digits, Option.none⟩
      ⟨ofDigits digits, whole - digits.length⟩ where
  valid :=
    { whole := by simp
      fraction := List.forall_mem_append.mpr ⟨isDigit_of_mem_zeros _, areDigits⟩
      some := by simp
      leading := by simp }
  value := by
    have digits_eq : ofDigits ('0' :: (List.replicate (-whole).toNat '0' ++ digits)) =
        ofDigits digits := by
      rw [← List.cons_append, ← List.replicate_succ, ofDigits_append]
      simp
    simp only [decimal, List.cons_append, List.nil_append, Option.getD_none, List.length_append,
      List.length_replicate, digits_eq]
    congr 2
    omega
  marked := .inl (by simp [nonempty])

theorem exists_spells_withPoint (whole : ℤ) (leading : digits.head? = some '0' → digits = ['0'])
    (zero : digits = ['0'] → whole ≤ 1) :
    ∃ parts : Parts, parts.text = withPoint digits whole ['.', '0'] ∧
      parts.Spells ⟨ofDigits digits, whole - digits.length⟩ := by
  unfold withPoint
  split
  · next long =>
      refine ⟨_, ?_, spells_beforePoint areDigits nonempty leading zero long⟩
      simp [text, fractionText, exponentText]
  · split
    · next short positive =>
        have some : (digits.drop whole.toNat).isEmpty = false := by
          have few : whole.toNat < digits.length := by omega
          simpa using few
        refine ⟨_, ?_, spells_aroundPoint areDigits nonempty leading positive (by omega)⟩
        simp [text, fractionText, exponentText, some]
    · next short none =>
        refine ⟨_, ?_, spells_afterPoint areDigits nonempty (by omega)⟩
        simp [text, fractionText, exponentText, nonempty]

theorem exists_spells_withExponent (exponent : ℤ) :
    ∃ parts : Parts, parts.text = withExponent digits exponent ∧
      parts.Spells ⟨ofDigits digits, exponent + 1 - digits.length⟩ := by
  refine ⟨⟨digits.take 1, digits.drop 1, some exponent⟩, ?_, ⟨?_, ?_, ?_, ?_⟩, ?_, .inr (by simp)⟩
  · simp [text, fractionText, exponentText, withExponent]
  · exact fun c member => areDigits c (List.mem_of_mem_take member)
  · exact fun c member => areDigits c (List.mem_of_mem_drop member)
  · simp [nonempty]
  · intro first
    obtain ⟨c, rest, rfl⟩ := List.exists_cons_of_ne_nil nonempty
    simpa using first
  · obtain ⟨c, rest, rfl⟩ := List.exists_cons_of_ne_nil nonempty
    simp only [decimal, List.take_append_drop, Option.getD_some, List.length_drop,
      List.length_cons]
    congr 2
    omega

end Parts

/-- A document's number has valid parts, which stand for the decimal that was written. -/
theorem Layout.exists_spells {layout : Layout} (mark : layout.wholeMark = ['.', '0'])
    {decimal : Decimal} (canonical : decimal.digits = 0 → decimal.exponent = 0) :
    ∃ parts : Parts, parts.text = layout.write decimal ∧ parts.Spells decimal := by
  have areDigits : ∀ c ∈ digitText decimal.digits, c.isDigit = true :=
    fun _ => isDigit_of_mem_digitText
  have leading : (digitText decimal.digits).head? = some '0' → decimal.digits = 0 := fun first => by
    by_contra positive
    exact head_digitText (Nat.pos_of_ne_zero positive) first
  simp only [write, mark]
  split
  · obtain ⟨parts, text, spells⟩ := Parts.exists_spells_withPoint areDigits (digitText_ne_nil _)
      (decimal.exponent + (digitText decimal.digits).length - 1 + 1)
      (fun first => by rw [leading first]; rfl)
      (fun only => by
        rw [only, canonical (leading (by rw [only]; rfl))]
        rfl)
    refine ⟨parts, text, ?_⟩
    convert spells using 1
    cases decimal
    simp
  · obtain ⟨parts, text, spells⟩ := Parts.exists_spells_withExponent areDigits (digitText_ne_nil _)
      (decimal.exponent + (digitText decimal.digits).length - 1)
    refine ⟨parts, text, ?_⟩
    convert spells using 1
    cases decimal
    simp

/-! ## Doubles -/

theorem two_zpow_between {k : ℤ} (low : -1300 < k) (high : k < 1300) :
    (10 : ℚ) ^ (-400 : ℤ) < 2 ^ k ∧ (2 : ℚ) ^ k < 10 ^ (400 : ℤ) := by
  have power : (2 : ℚ) ^ (1300 : ℤ) ≤ 10 ^ (400 : ℤ) := by
    rw [show (1300 : ℤ) = 13 * 100 by rfl, show (400 : ℤ) = 4 * 100 by rfl, zpow_mul, zpow_mul]
    exact zpow_le_zpow_left₀ (by norm_num) (by norm_num) (by norm_num)
  constructor
  · calc (10 : ℚ) ^ (-400 : ℤ) ≤ 2 ^ (-1300 : ℤ) := by
          rw [zpow_neg, zpow_neg]
          exact inv_anti₀ (two_zpow_pos 1300) power
      _ < 2 ^ k := zpow_lt_zpow_right₀ (by norm_num) low
  · exact (zpow_lt_zpow_right₀ (by norm_num) high).trans_le power

section Doubles

variable {x : Float} {negative : Bool} {magnitude : Magnitude}
  (finite : x.isFinite = true) (stored : ofDouble x = .finite negative magnitude)
include finite stored

omit finite in
/-- The numbers that round to a double have few digits before and few zeros after the point. -/
theorem bounds_of_covers (positive : 0 < magnitude.mantissa) {value : ℚ}
    (covers : magnitude.Covers value) : (10 : ℚ) ^ (-400 : ℤ) < value ∧ value < 10 ^ (400 : ℤ) := by
  obtain ⟨stores, bounded, -⟩ := Format.decode_finite stored
  have some : (1 : ℚ) ≤ magnitude.mantissa := by exact_mod_cast positive
  have width : (magnitude.mantissa : ℚ) < 2 ^ 53 := by exact_mod_cast stores.width
  have gap : magnitude.gap ≤ 1 / 2 := by
    unfold Magnitude.gap
    split <;> norm_num
  have least : (-1074 : ℤ) ≤ magnitude.exponent := stores.least
  have most : magnitude.exponent ≤ 972 := by
    have bounded : (magnitude.exponent - -1074).toNat * 2 ^ 52 + magnitude.mantissa <
      2047 * 2 ^ 52 := bounded
    omega
  have step := two_zpow_pos magnitude.exponent
  have half := two_zpow_succ (magnitude.exponent - 1)
  rw [sub_add_cancel] at half
  constructor
  · calc (10 : ℚ) ^ (-400 : ℤ) < 2 ^ (magnitude.exponent - 1) :=
          (two_zpow_between (by omega) (by omega)).1
      _ ≤ (magnitude.mantissa - magnitude.gap) * 2 ^ magnitude.exponent := by nlinarith
      _ ≤ value := covers.low
  · calc value ≤ (magnitude.mantissa + 1 / 2) * 2 ^ magnitude.exponent := covers.high
      _ ≤ 2 ^ (54 : ℤ) * 2 ^ magnitude.exponent := by
        have twice : (2 : ℚ) ^ (54 : ℤ) = 2 * 2 ^ 53 := by norm_num
        gcongr
        linarith
      _ = 2 ^ (54 + magnitude.exponent) := (zpow_add₀ (by norm_num) _ _).symm
      _ < 10 ^ (400 : ℤ) := (two_zpow_between (by omega) (by omega)).2

theorem doubleOfDecimal_of_covers (positive : 0 < magnitude.mantissa) {digits : Nat} {exponent : ℤ}
    (covers : magnitude.Covers (Decimal.value ⟨digits, exponent⟩)) :
    doubleOfDecimal negative digits exponent = x := by
  obtain ⟨low, high⟩ := bounds_of_covers stored positive covers
  have ten := ten_zpow_pos exponent
  simp only [Decimal.value] at low high
  have some : digits ≠ 0 := by
    rintro rfl
    simp only [Nat.cast_zero, zero_mul] at low
    exact absurd low (by norm_num)
  have digits_low : (10 : ℚ) ^ ((Nat.toDigits 10 digits).length - 1 : ℤ) ≤ digits := by
    have := pow_length_toDigits_le (Nat.pos_of_ne_zero some)
    have length := Nat.length_toDigits_pos (b := 10) (n := digits)
    rw [show ((Nat.toDigits 10 digits).length - 1 : ℤ) =
      ((Nat.toDigits 10 digits).length - 1 : ℕ) by omega, zpow_natCast]
    exact_mod_cast this
  have digits_high : (digits : ℚ) < 10 ^ ((Nat.toDigits 10 digits).length : ℤ) := by
    rw [zpow_natCast]
    exact_mod_cast lt_pow_length_toDigits digits
  -- neither of the shortcuts for very large and very small numbers is taken
  have notSmall : ¬ exponent + (Nat.toDigits 10 digits).length < -400 := by
    intro small
    have : (10 : ℚ) ^ (-400 : ℤ) < 10 ^ (exponent + (Nat.toDigits 10 digits).length) := by
      rw [zpow_add₀ (by norm_num), mul_comm]
      exact low.trans (by gcongr)
    have := (zpow_lt_zpow_iff_right₀ (by norm_num)).mp this
    omega
  have notLarge : ¬ 400 < exponent + (Nat.toDigits 10 digits).length := by
    intro large
    have : (10 : ℚ) ^ (exponent + ((Nat.toDigits 10 digits).length - 1)) < 10 ^ (400 : ℤ) := by
      rw [zpow_add₀ (by norm_num), mul_comm]
      exact lt_of_le_of_lt (by gcongr) high
    have := (zpow_lt_zpow_iff_right₀ (by norm_num)).mp this
    omega
  have quotient := scaled_quotient 10 digits 1 (-exponent) (by norm_num)
  rw [neg_neg, Nat.one_mul] at quotient
  simp only [doubleOfDecimal, some, notSmall, notLarge, decide_false, Bool.or_self,
    Bool.false_eq_true, if_false]
  refine nearestDouble_of_covers finite stored positive (Nat.pow_pos (by norm_num)) ?_
  rw [quotient]
  simpa [Decimal.value, zpow_neg] using covers

/-- A finite double is read back from the parts of its shortest decimal. -/
theorem doubleOfDecimal_of_spells {parts : Parts}
    (spells : parts.Spells (magnitude.shortest .toEven)) :
    doubleOfDecimal negative parts.decimal.digits parts.decimal.exponent = x := by
  obtain zero | positive := Nat.eq_zero_or_pos magnitude.mantissa
  · have none : parts.decimal.value = 0 := by
      rw [spells.value, Magnitude.shortest, if_pos zero]
      simp [Decimal.value]
    have digits : parts.decimal.digits = 0 := by
      simpa [Decimal.value, zpow_ne_zero] using none
    rw [digits]
    exact nearestDouble_zero finite stored zero
  · refine doubleOfDecimal_of_covers finite stored positive ?_
    obtain ⟨stores, -⟩ := Format.decode_finite stored
    exact spells.value ▸ Magnitude.covers_shortest positive .toEven stores

end Doubles

end InferenceBench.Numeral
