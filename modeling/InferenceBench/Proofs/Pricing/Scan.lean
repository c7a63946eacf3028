import InferenceBench.Pricing.Update
import InferenceBench.Proofs.Text.Split
import Mathlib.Data.List.Infix

/-! # Scanning for prices

A price is a field name, white space, and a number. The scanner cuts a text at the prices of one
field; what it does at a place depends only on whether a price starts there. Because no end of a
field name starts another one, and neither white space nor numbers start one, the prices of
different fields never overlap, and no price begins in the text before another price and ends
inside of it.
-/

namespace InferenceBench.Pricing

/-! ## Prices at a place -/

/-- A price of the field is at the start of the text. -/
def StartsPrice (field text : List Char) : Prop :=
  ∃ gap digit rest, text = field ++ gap ++ digit :: rest ∧
    (∀ c ∈ gap, Text.isBlank c = true) ∧ isPriceChar digit = true

theorem isBlank_of_isPriceChar {c : Char} (price : isPriceChar c = true) :
    Text.isBlank c = false := by
  have range : c = '.' ∨ 48 ≤ c.toNat ∧ c.toNat ≤ 57 := by
    simpa [isPriceChar, Char.isDigit, UInt32.le_iff_toNat_le, or_comm] using price
  obtain rfl | range := range
  · decide
  · simp only [Text.isBlank]
    grind

/-- White space and a number, and a text that does not continue the number. -/
structure PriceParts (gap number rest : List Char) : Prop where
  blank : ∀ c ∈ gap, Text.isBlank c = true
  digits : ∀ c ∈ number, isPriceChar c = true
  nonempty : number ≠ []
  stops : ∀ c ∈ rest.head?, isPriceChar c = false

instance (gap number rest : List Char) : Decidable (PriceParts gap number rest) :=
  decidable_of_iff (gap.all Text.isBlank = true ∧ number.all isPriceChar = true ∧ number ≠ [] ∧
      rest.head?.all (!isPriceChar ·) = true)
    ⟨fun ⟨blank, digits, nonempty, stops⟩ => ⟨List.all_eq_true.mp blank,
      List.all_eq_true.mp digits, nonempty, by simpa [Option.all_eq_true] using stops⟩,
    fun ⟨blank, digits, nonempty, stops⟩ => ⟨List.all_eq_true.mpr blank,
      List.all_eq_true.mpr digits, nonempty, by simpa [Option.all_eq_true] using stops⟩⟩

section Scanner

variable {field text gap number rest : List Char}

theorem StartsPrice.parts (starts : StartsPrice field text) :
    ∃ gap number rest, text = field ++ gap ++ number ++ rest ∧ PriceParts gap number rest := by
  obtain ⟨gap, digit, more, rfl, blank, price⟩ := starts
  obtain ⟨digits, rest, rfl, all, stops⟩ := Text.exists_boundary isPriceChar more
  refine ⟨gap, digit :: digits, rest, by simp, blank, ?_, List.cons_ne_nil _ _, stops⟩
  exact List.forall_mem_cons.mpr ⟨price, all⟩

theorem priceAt?_of_parts (parts : PriceParts gap number rest) :
    priceAt? field (field ++ gap ++ number ++ rest) = some (.price gap number, rest) := by
  have found : field.isPrefixOf? (field ++ gap ++ number ++ rest) =
      some (gap ++ (number ++ rest)) :=
    List.isPrefixOf?_eq_some_iff_append_eq.mpr (by simp)
  have visible : ∀ c ∈ (number ++ rest).head?, Text.isBlank c = false := by
    obtain ⟨digit, others, rfl⟩ := List.exists_cons_of_ne_nil parts.nonempty
    rintro c ⟨⟩
    exact isBlank_of_isPriceChar (parts.digits _ List.mem_cons_self)
  simp only [priceAt?, found, Text.takeWhile_boundary parts.blank visible,
    Text.dropWhile_boundary parts.blank visible, Text.takeWhile_boundary parts.digits parts.stops,
    Text.dropWhile_boundary parts.digits parts.stops]
  rw [if_neg (by simpa using parts.nonempty)]

theorem priceAt?_eq_none : priceAt? field text = none ↔ ¬ StartsPrice field text := by
  constructor
  · intro missing starts
    obtain ⟨gap, number, rest, rfl, parts⟩ := starts.parts
    rw [priceAt?_of_parts parts] at missing
    cases missing
  · intro plain
    simp only [priceAt?]
    split
    · rfl
    · next tail found =>
        obtain rfl := List.isPrefixOf?_eq_some_iff_append_eq.mp found
        obtain ⟨gap, numbered, rfl, blank, stop⟩ := Text.exists_boundary Text.isBlank tail
        rw [Text.dropWhile_boundary blank stop]
        cases numbered with
        | nil => simp
        | cons digit rest =>
            have notPrice : ¬ isPriceChar digit = true := fun price =>
              plain ⟨gap, digit, rest, by simp, blank, price⟩
            rw [if_pos (by simp [notPrice])]

/-! ## The pieces of a text -/

theorem pieces_of_parts (parts : PriceParts gap number rest) :
    pieces field (field ++ gap ++ number ++ rest) = .price gap number :: pieces field rest := by
  have found : priceAt? field (field ++ gap ++ number ++ rest) =
      some (.price gap number, rest) := priceAt?_of_parts parts
  cases text : field ++ gap ++ number ++ rest with
  | nil => exact absurd (by simp_all) parts.nonempty
  | cons c tail =>
      rw [text] at found
      rw [pieces]
      split
      · next piece after there =>
          obtain ⟨rfl, rfl⟩ := Prod.mk.inj (Option.some.inj (found.symm.trans there))
          rfl
      · next missing => simp [found] at missing

theorem pieces_of_plain {tail : List Char} {c : Char}
    (plain : ¬ StartsPrice field (c :: tail)) :
    pieces field (c :: tail) = .plain c :: pieces field tail := by
  have missing := priceAt?_eq_none.mpr plain
  rw [pieces]
  split
  · next found => simp [missing] at found
  · rfl

/-- Where no price starts, the characters are pieces of their own. -/
theorem pieces_append
    (plain : ∀ back, back <:+ text → back ≠ [] → ¬ StartsPrice field (back ++ rest)) :
    pieces field (text ++ rest) = text.map .plain ++ pieces field rest := by
  induction text with
  | nil => rfl
  | cons c text ih =>
      have first : ¬ StartsPrice field (c :: (text ++ rest)) :=
        plain (c :: text) List.suffix_rfl (List.cons_ne_nil _ _)
      rw [List.cons_append, pieces_of_plain first,
        ih fun back ends => plain back (ends.trans (List.suffix_cons _ _))]
      rfl

end Scanner

/-! ## The three fields -/

/-- A field whose prices are rewritten. -/
inductive PriceField where
  | input
  | output
  | cached
  deriving Repr, DecidableEq

def PriceField.text : PriceField → List Char
  | .input => inputField
  | .output => outputField
  | .cached => cachedField

/-- The texts differ before either of them ends. -/
def Clash (text other : List Char) : Prop := (text.zip other).any (fun (c, d) => c ≠ d) = true

instance (text other : List Char) : Decidable (Clash text other) :=
  inferInstanceAs (Decidable (_ = true))

theorem Clash.not_prefix {text other rest more : List Char} (clash : Clash text other) :
    text ++ rest ≠ other ++ more := by
  induction text generalizing other with
  | nil => simp [Clash] at clash
  | cons c text ih =>
      cases other with
      | nil => simp [Clash] at clash
      | cons d other =>
          intro same
          simp only [List.cons_append, List.cons.injEq] at same
          obtain ⟨rfl, same⟩ := same
          exact ih (by simpa [Clash] using clash) same

namespace PriceField

/-- A field name does not start in another one, or in itself after its first character. -/
theorem ends_clash (field other : PriceField) :
    ∀ back ∈ other.text.tails, back ≠ [] → (back = other.text ∧ field = other) ∨
      Clash field.text back := by
  cases field <;> cases other <;> decide

theorem eq_of_starts {field other : PriceField} {back rest more : List Char}
    (ends : back <:+ other.text) (some : back ≠ []) (starts : field.text ++ more = back ++ rest) :
    back = other.text ∧ field = other :=
  (ends_clash field other back ((List.mem_tails _ _).mpr ends) some).resolve_right
    fun clash => clash.not_prefix starts

theorem exists_cons (field : PriceField) : ∃ c rest, field.text = c :: rest ∧
    Text.isBlank c = false ∧ isPriceChar c = false ∧ c ≠ ',' ∧ c ≠ '\x7B' := by
  cases field <;> exact ⟨_, _, rfl, by decide⟩

theorem closing_notMem (field : PriceField) : '\x7D' ∉ field.text := by
  cases field <;> decide

end PriceField

/-! ## What ends a plain text -/

/-- No price that starts before this text reaches into it. -/
structure Separates (text : List Char) : Prop where
  /-- No field name that starts before it ends in it. -/
  noEnd : ∀ (field : PriceField) front back rest, field.text = front ++ back → front ≠ [] →
    back ≠ [] → text ≠ back ++ rest
  notBlank : ∀ c ∈ text.head?, Text.isBlank c = false
  notNumber : ∀ c ∈ text.head?, isPriceChar c = false
  notComma : ∀ c ∈ text.head?, c ≠ ','

theorem separates_field (field : PriceField) (rest : List Char) :
    Separates (field.text ++ rest) where
  noEnd other front back more parts nonempty some starts := by
    obtain ⟨whole, -⟩ := PriceField.eq_of_starts ⟨front, parts.symm⟩ some starts
    have := congrArg List.length parts
    have := List.length_pos_iff.mpr nonempty
    simp_all
  notBlank := by
    obtain ⟨c, tail, same, blank, -⟩ := field.exists_cons
    simpa [same] using blank
  notNumber := by
    obtain ⟨c, tail, same, -, price, -⟩ := field.exists_cons
    simpa [same] using price
  notComma := by
    obtain ⟨c, tail, same, -, -, comma, -⟩ := field.exists_cons
    simpa [same] using comma

theorem separates_closing (rest : List Char) : Separates ('\x7D' :: rest) where
  noEnd field front back more parts _ some starts := by
    obtain ⟨c, tail, rfl⟩ := List.exists_cons_of_ne_nil some
    obtain ⟨rfl, -⟩ := List.cons.inj starts
    exact field.closing_notMem (by simp [parts])
  notBlank := by
    rintro c ⟨⟩
    decide
  notNumber := by
    rintro c ⟨⟩
    decide
  notComma := by
    rintro c ⟨⟩
    decide

theorem Separates.field_before {text back more : List Char} (separates : Separates text)
    {field : PriceField} (some : back ≠ []) (starts : back ++ text = field.text ++ more) :
    ∃ rest, back = field.text ++ rest ∧ more = rest ++ text := by
  obtain ⟨rest, same, more⟩ | ⟨rest, same, more⟩ := List.append_eq_append_iff.mp starts
  · cases rest with
    | nil => exact ⟨[], by simpa using same.symm, by simpa using more.symm⟩
    | cons c rest => exact absurd more (separates.noEnd field back _ _ same some (by simp))
  · exact ⟨rest, same, more⟩

theorem Separates.not_startsPrice {text back : List Char} (separates : Separates text)
    {field : PriceField} (some : back ≠ []) (plain : ¬ StartsPrice field.text back) :
    ¬ StartsPrice field.text (back ++ text) := by
  rintro ⟨gap, digit, rest, same, blank, price⟩
  rw [List.append_assoc] at same
  obtain ⟨after, rfl, parts⟩ := separates.field_before some same
  -- If the number does not start before the text, the text starts with it or with the white space.
  obtain ⟨middle, rfl, tail⟩ | ⟨middle, rfl, tail⟩ := List.append_eq_append_iff.mp parts
  · cases middle with
    | nil =>
        obtain rfl : digit :: rest = text := tail
        simpa [price] using separates.notNumber digit rfl
    | cons c middle =>
        obtain ⟨rfl, -⟩ := List.cons.inj tail
        exact plain ⟨gap, _, middle, by simp, blank, price⟩
  · cases middle with
    | nil =>
        obtain rfl : text = digit :: rest := tail
        simpa [price] using separates.notNumber digit rfl
    | cons c middle =>
        subst tail
        simpa [blank c (by simp)] using separates.notBlank c rfl

end InferenceBench.Pricing
