import InferenceBench.Text.Blank

/-! # Price fields

In the block of an entry, a price is a field name, white space, and a number of digits and points.
A text is cut into the prices of one field and the characters between them, so that rewriting
prices is a map over the pieces. -/

namespace InferenceBench.Pricing

/-- A piece of a text in which one field is looked for. -/
inductive Piece where
  | plain (c : Char)
  /-- The field with the white space and the number after it. -/
  | price (gap number : List Char)
  deriving Repr, DecidableEq

def isPriceChar (c : Char) : Bool := c.isDigit || c = '.'

/-- The price at the start of a text, and the text after it. -/
def priceAt? (field text : List Char) : Option (Piece × List Char) :=
  match field.isPrefixOf? text with
  | none => none
  | some rest =>
    let gap := rest.takeWhile Text.isBlank
    let rest := rest.dropWhile Text.isBlank
    let number := rest.takeWhile isPriceChar
    if number.isEmpty then none else some (.price gap number, rest.dropWhile isPriceChar)

theorem length_dropWhile_lt {α : Type} {p : α → Bool} {xs : List α}
    (h : (xs.takeWhile p).isEmpty = false) : (xs.dropWhile p).length < xs.length := by
  cases xs with
  | nil => simp at h
  | cons x rest =>
    by_cases hx : p x
    · have := (List.dropWhile_sublist p (l := rest)).length_le
      simp [hx]
      omega
    · simp [hx] at h

theorem length_le_of_isPrefixOf? {field text rest : List Char}
    (h : field.isPrefixOf? text = some rest) : rest.length ≤ text.length := by
  induction field generalizing text with
  | nil =>
    obtain rfl := Option.some.inj h
    exact Nat.le_refl _
  | cons c field ih =>
    cases text with
    | nil => exact nomatch h
    | cons d text =>
      change (if c == d then field.isPrefixOf? text else none) = some rest at h
      split at h
      · exact Nat.le_succ_of_le (ih h)
      · simp at h

theorem length_lt_of_priceAt? {field text rest : List Char} {piece : Piece}
    (h : priceAt? field text = some (piece, rest)) : rest.length < text.length := by
  unfold priceAt? at h
  split at h
  · simp at h
  · rename_i tail found
    dsimp only at h
    split at h
    · simp at h
    · rename_i number
      have prefixed := length_le_of_isPrefixOf? found
      have gap := (List.dropWhile_sublist Text.isBlank (l := tail)).length_le
      have digits := length_dropWhile_lt (by simpa using number :
        ((tail.dropWhile Text.isBlank).takeWhile isPriceChar).isEmpty = false)
      simp only [Option.some.injEq, Prod.mk.injEq] at h
      rw [← h.2]
      omega

/-- The pieces of a text, the leftmost price first. -/
def pieces (field : List Char) (text : List Char) : List Piece :=
  match text with
  | [] => []
  | c :: tail =>
    match _h : priceAt? field (c :: tail) with
    | some (piece, rest) => piece :: pieces field rest
    | none => .plain c :: pieces field tail
  termination_by text.length
  decreasing_by
    · exact length_lt_of_priceAt? _h
    · simp

/-- A piece as it stands in the text. -/
def Piece.text (field : List Char) : Piece → List Char
  | .plain c => [c]
  | .price gap number => field ++ gap ++ number

/-- A piece with another price. -/
def Piece.repriced (field value : List Char) : Piece → List Char
  | .plain c => [c]
  | .price _ _ => field ++ ' ' :: value

/-- The text with every price of the field replaced. -/
def replacePrices (field value text : List Char) : List Char :=
  (pieces field text).flatMap (Piece.repriced field value)

/-- The pieces with `addition` after each price that a comma follows. -/
def appendAfterPrices (field addition : List Char) : List Piece → List Char
  | [] => []
  | .price gap number :: .plain ',' :: rest =>
    field ++ gap ++ number ++ ',' :: addition ++ appendAfterPrices field addition rest
  | piece :: rest => piece.text field ++ appendAfterPrices field addition rest

end InferenceBench.Pricing
