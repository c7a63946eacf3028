import InferenceBench.Numeral.Layout
import InferenceBench.Proofs.Numeral.Double

/-! # Numbers with fixed places

A finite number without minus sign is written with digits and a point, and with at least one
digit. The others have a minus sign in front, or are written by name.
-/

namespace InferenceBench.Numeral

/-- A finite number that is written without minus sign. A negative one has it even if all its
digits are zero. -/
structure Unsigned (places : Nat) (x : Float) : Prop where
  finite : x.isFinite = true
  noMinus : '-' ∉ fixed places x

theorem isDigit_of_mem_digitText {n : Nat} {c : Char} (member : c ∈ digitText n) :
    c.isDigit = true :=
  Nat.isDigit_of_mem_toDigits (by decide) (by decide) member

theorem digitText_ne_nil (n : Nat) : digitText n ≠ [] := Nat.toDigits_ne_nil

theorem mem_fixed_magnitude {magnitude : Magnitude} {places : Nat} {c : Char}
    (member : c ∈ magnitude.fixed places) : c.isDigit = true ∨ c = '.' := by
  simp only [Magnitude.fixed, List.mem_append] at member
  obtain whole | fraction := member
  · exact .inl (isDigit_of_mem_digitText whole)
  · split at fraction
    · simp at fraction
    · simp only [List.mem_cons, List.mem_append, List.mem_replicate] at fraction
      obtain rfl | ⟨-, rfl⟩ | digits := fraction
      · exact .inr rfl
      · exact .inl (by decide)
      · exact .inl (isDigit_of_mem_digitText digits)

theorem Magnitude.fixed_ne_nil (magnitude : Magnitude) (places : Nat) :
    magnitude.fixed places ≠ [] := by
  simp [Magnitude.fixed, digitText_ne_nil]

/-- The texts of numbers with fixed places. -/
inductive FixedText : List Char → Prop
  | digits {text} : text ≠ [] → (∀ c ∈ text, c.isDigit = true ∨ c = '.') → FixedText text
  | negative {text} : text ≠ [] → (∀ c ∈ text, c.isDigit = true ∨ c = '.') →
      FixedText ('-' :: text)
  | name {text} : text ∈ ["NaN".toList, "inf".toList, "-inf".toList] → FixedText text

theorem fixedText_fixed (places : Nat) (x : Float) : FixedText (fixed places x) := by
  simp only [fixed, fixedWithSign]
  cases ofDouble x with
  | notANumber => exact .name (by simp)
  | infinite negative => cases negative <;> exact .name (by simp)
  | finite negative magnitude =>
      have nonempty := magnitude.fixed_ne_nil places
      cases negative with
      | true => exact .negative nonempty fun c => mem_fixed_magnitude
      | false => exact .digits nonempty fun c => mem_fixed_magnitude

theorem Unsigned.fixed_eq {places : Nat} {x : Float} (unsigned : Unsigned places x) :
    ∃ magnitude : Magnitude, fixed places x = magnitude.fixed places := by
  obtain ⟨negative, magnitude, stored⟩ := ofDouble_of_isFinite unsigned.finite
  have noMinus := unsigned.noMinus
  simp only [fixed, fixedWithSign, stored] at noMinus ⊢
  cases negative with
  | true => simp at noMinus
  | false => exact ⟨magnitude, rfl⟩

theorem Unsigned.chars {places : Nat} {x : Float} (unsigned : Unsigned places x) :
    ∀ c ∈ fixed places x, c.isDigit = true ∨ c = '.' := by
  obtain ⟨magnitude, same⟩ := unsigned.fixed_eq
  rw [same]
  exact fun c => mem_fixed_magnitude

theorem Unsigned.ne_nil {places : Nat} {x : Float} (unsigned : Unsigned places x) :
    fixed places x ≠ [] := by
  obtain ⟨magnitude, same⟩ := unsigned.fixed_eq
  rw [same]
  exact magnitude.fixed_ne_nil places

end InferenceBench.Numeral
