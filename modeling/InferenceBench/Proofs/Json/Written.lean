import InferenceBench.Proofs.Json.Printer
import InferenceBench.Proofs.Json.Readable
import InferenceBench.Proofs.Numeral.Reading
import InferenceBench.Proofs.Text.Utf8

/-! # Written documents read back

A tree of numbers, strings and containers is read back from its pretty form. Every value that
reading can give has such a tree: its numbers keep their kind and their value, its strings their
characters, its fields their order, and its containers stay within the limit.
-/

namespace InferenceBench.Json

open Numeral

/-! ## Numbers -/

theorem after?_append (part : NumberPart) (text more : List Char) :
    part.after? (text ++ more) = (part.after? text).bind (·.after? more) := by
  simp [NumberPart.after?, List.foldlM_append]

theorem after?_cons {part next : NumberPart} {c : Char} (step : part.next? c = some next)
    (text : List Char) : part.after? (c :: text) = next.after? text := by
  simp [NumberPart.after?, step]

theorem after?_digits {part : NumberPart}
    (stays : ∀ c : Char, c.isDigit = true → part.next? c = some part)
    {digits : List Char} (areDigits : ∀ c ∈ digits, c.isDigit = true) :
    part.after? digits = some part := by
  induction digits with
  | nil => rfl
  | cons c digits ih =>
      obtain ⟨first, others⟩ := List.forall_mem_cons.mp areDigits
      rw [after?_cons (stays c first), ih others]

theorem after?_whole {parts : Parts} (valid : parts.Valid) :
    ∃ part, NumberPart.sign.after? parts.whole = some part ∧ (part = .zero ∨ part = .whole) := by
  obtain ⟨c, digits, same⟩ := List.exists_cons_of_ne_nil valid.some
  have areDigits := valid.whole
  rw [same] at areDigits
  obtain ⟨first, others⟩ := List.forall_mem_cons.mp areDigits
  by_cases zero : c = '0'
  · have only := valid.leading (by rw [same, zero]; rfl)
    rw [only]
    exact ⟨.zero, rfl, .inl rfl⟩
  · have begun : NumberPart.sign.next? c = some .whole := by simp [NumberPart.next?, zero, first]
    have stays (c : Char) (digit : c.isDigit = true) :
        NumberPart.whole.next? c = some .whole := by simp [NumberPart.next?, digit]
    refine ⟨.whole, ?_, .inr rfl⟩
    rw [same, after?_cons begun, after?_digits stays others]

theorem after?_fraction {part : NumberPart} (begun : part = .zero ∨ part = .whole)
    {fraction : List Char} (areDigits : ∀ c ∈ fraction, c.isDigit = true) :
    ∃ next, part.after? (Parts.fractionText fraction) = some next ∧
      (next = .zero ∨ next = .whole ∨ next = .fraction) := by
  cases fraction with
  | nil => exact ⟨part, rfl, begun.imp_right .inl⟩
  | cons c digits =>
      obtain ⟨first, others⟩ := List.forall_mem_cons.mp areDigits
      have point : part.next? '.' = some .point := by obtain rfl | rfl := begun <;> rfl
      have digit : NumberPart.point.next? c = some .fraction := by simp [NumberPart.next?, first]
      have stays (c : Char) (digit : c.isDigit = true) :
          NumberPart.fraction.next? c = some .fraction := by simp [NumberPart.next?, digit]
      refine ⟨.fraction, ?_, .inr (.inr rfl)⟩
      rw [Parts.fractionText, List.isEmpty_cons, if_neg Bool.false_ne_true, after?_cons point,
        after?_cons digit, after?_digits stays others]

theorem after?_exponent {part : NumberPart}
    (begun : part = .zero ∨ part = .whole ∨ part = .fraction) (exponent : Option ℤ) :
    ∃ last, part.after? (Parts.exponentText exponent) = some last ∧ last.isComplete = true := by
  cases exponent with
  | none => exact ⟨part, rfl, by obtain rfl | rfl | rfl := begun <;> rfl⟩
  | some exponent =>
      have mark : part.next? 'e' = some .mark := by obtain rfl | rfl | rfl := begun <;> rfl
      have sign : NumberPart.mark.next? (if exponent < 0 then '-' else '+') = some .markSign := by
        split <;> rfl
      have stays (c : Char) (digit : c.isDigit = true) :
          NumberPart.exponent.next? c = some .exponent := by simp [NumberPart.next?, digit]
      obtain ⟨c, digits, same⟩ := List.exists_cons_of_ne_nil (digitText_ne_nil exponent.natAbs)
      have areDigits : ∀ d ∈ c :: digits, d.isDigit = true := fun d member =>
        isDigit_of_mem_digitText (same ▸ member)
      obtain ⟨first, others⟩ := List.forall_mem_cons.mp areDigits
      have digit : NumberPart.markSign.next? c = some .exponent := by simp [NumberPart.next?, first]
      refine ⟨.exponent, ?_, rfl⟩
      rw [Parts.exponentText, same, after?_cons mark, after?_cons sign, after?_cons digit,
        after?_digits stays others]

theorem scans_text {parts : Parts} (valid : parts.Valid) : Scans parts.text := by
  obtain ⟨part, whole, begun⟩ := after?_whole valid
  obtain ⟨next, fraction, begun⟩ := after?_fraction begun valid.fraction
  obtain ⟨last, exponent, complete⟩ := after?_exponent begun parts.exponent
  refine ⟨last, ?_, complete⟩
  rw [Parts.text, after?_append, whole, Option.bind_some, after?_append, fraction,
    Option.bind_some, exponent]

theorem head?_text {parts : Parts} (valid : parts.Valid) :
    (parts.text.head? == some '-') = false := by
  obtain ⟨c, digits, same⟩ := List.exists_cons_of_ne_nil valid.some
  have digit := valid.whole c (by simp [same])
  rw [Parts.text, same, List.cons_append, List.head?_cons, beq_eq_false_iff_ne]
  rintro ⟨⟩
  cases digit

theorem valid_digitText {n : Nat} : Parts.Valid ⟨digitText n, [], none⟩ where
  whole := fun _ => isDigit_of_mem_digitText
  fraction := by simp
  some := digitText_ne_nil n
  leading := fun first => by
    obtain rfl | positive := Nat.eq_zero_or_pos n
    · rfl
    · exact absurd first (head_digitText positive)

theorem text_digitText (n : Nat) : Parts.text ⟨digitText n, [], none⟩ = digitText n := by
  simp [Parts.text, Parts.fractionText, Parts.exponentText]

theorem scans_digitText (n : Nat) : Scans (digitText n) :=
  text_digitText n ▸ scans_text valid_digitText

theorem all_digitText (n : Nat) : (digitText n).all Char.isDigit = true :=
  List.all_eq_true.mpr fun _ => isDigit_of_mem_digitText

/-- A number with a fraction or an exponent does not look like an integer. -/
theorem not_all_digits {parts : Parts} (marked : parts.fraction ≠ [] ∨ parts.exponent ≠ none) :
    parts.text.all Char.isDigit = false := by
  rw [Parts.text, List.all_append, List.all_append]
  obtain fraction | exponent := marked
  · obtain ⟨c, digits, same⟩ := List.exists_cons_of_ne_nil fraction
    simp [same, Parts.fractionText]
  · obtain ⟨exponent, same⟩ := Option.ne_none_iff_exists'.mp exponent
    simp [same, Parts.exponentText]

theorem ofText?_parts {parts : Parts} (valid : parts.Valid)
    (marked : parts.fraction ≠ [] ∨ parts.exponent ≠ none) (negative : Bool) {x : Float}
    (finite : x.isFinite = true)
    (rounds : doubleOfDecimal negative parts.decimal.digits parts.decimal.exponent = x) :
    Number.ofText? (signText negative ++ parts.text) = some (.real x) := by
  have sign : ((signText negative ++ parts.text).head? == some '-') = negative := by
    cases negative with
    | true => rfl
    | false => exact head?_text valid
  have digits : (if negative then (signText negative ++ parts.text).drop 1
      else signText negative ++ parts.text) = parts.text := by
    cases negative <;> rfl
  simp only [Number.ofText?, sign, digits, not_all_digits marked, Bool.false_and,
    Bool.false_eq_true, if_false, valid.readUnsignedDouble?, rounds, finite, if_true]

theorem readBack_double {x : Float} (finite : x.isFinite = true) :
    NumberText (Layout.document.writeDouble x) ∧
      Number.ofText? (Layout.document.writeDouble x) = some (.real x) := by
  obtain ⟨negative, magnitude, stored⟩ := ofDouble_of_isFinite finite
  have canonical : (magnitude.shortest .toEven).digits = 0 →
      (magnitude.shortest .toEven).exponent = 0 := fun zero => by
    obtain none | positive := Nat.eq_zero_or_pos magnitude.mantissa
    · rw [Magnitude.shortest, if_pos none]
    · obtain ⟨stores, -⟩ := Format.decode_finite stored
      have low := (bounds_of_covers stored positive
        (Magnitude.covers_shortest positive .toEven stores)).1
      rw [Decimal.value, zero, Nat.cast_zero, zero_mul] at low
      exact absurd (low.trans (ten_zpow_pos _)) (lt_irrefl _)
  obtain ⟨parts, text, spells⟩ := @Layout.exists_spells .document rfl _ canonical
  have written : Layout.document.writeDouble x = signText negative ++ parts.text := by
    rw [Layout.writeDouble, stored, text]
    rfl
  rw [written]
  constructor
  · cases negative with
    | true => exact .negative (scans_text spells.valid)
    | false => exact .unsigned (scans_text spells.valid)
  · exact ofText?_parts spells.valid spells.marked negative finite
      (doubleOfDecimal_of_spells finite stored spells)

theorem Number.Canonical.readBack {number : Number} (canonical : number.Canonical) :
    ∃ text, number.tree = .number text ∧ NumberText text ∧ Number.ofText? text = some number := by
  cases canonical with
  | @natural n below =>
      refine ⟨digitText n, rfl, .unsigned (scans_digitText n), ?_⟩
      have plain := head?_text (valid_digitText (n := n))
      rw [text_digitText] at plain
      have small : n < UInt64.size := below
      simp [Number.ofText?, plain, all_digitText, small]
  | @negative n positive le =>
      refine ⟨'-' :: digitText n, rfl, .negative (scans_digitText n), ?_⟩
      have small : n ≤ UInt64.size / 2 := le
      simp [Number.ofText?, all_digitText, positive, small]
  | @real x finite =>
      obtain ⟨isNumber, read⟩ := readBack_double finite
      exact ⟨_, if_pos finite, isNumber, read⟩

/-! ## Trees -/

theorem pieceText?_chars (text : List Char) : pieceText? (text.map Piece.char) = some text := by
  induction text with
  | nil => rfl
  | cons c text ih => simp [pieceText?, ih]

/-- A tree that can be written, and the value that is read from it. -/
structure Tree.Means (depth : Nat) (tree : Tree) (value : Value) : Prop where
  writable : tree.Writable
  reads : tree.valueWithin? depth = some value

/-- Named trees and the named values that are read from them. -/
inductive FieldsMean (depth : Nat) :
    List (List Piece × Tree) → List (String × Value) → Prop where
  | nil : FieldsMean depth [] []
  | cons {key : String} {tree : Tree} {value : Value} {trees : List (List Piece × Tree)}
      {values : List (String × Value)} (means : tree.Means depth value)
      (others : FieldsMean depth trees values) :
      FieldsMean depth (field key tree :: trees) ((key, value) :: values)

section Means

variable {depth : Nat}

theorem means_null : Tree.null.Means depth .null := ⟨.null, rfl⟩

theorem means_boolean (flag : Bool) : (Tree.boolean flag).Means depth (.boolean flag) :=
  ⟨.boolean flag, rfl⟩

theorem means_ofString (text : String) : (Tree.ofString text).Means depth (.text text) where
  writable := .text text.toList
  reads := by
    rw [Tree.ofString, Tree.ofChars, Tree.valueWithin?, pieceText?_chars]
    simp

theorem Number.Canonical.means {number : Number} (canonical : number.Canonical) :
    number.tree.Means depth (.number number) := by
  obtain ⟨text, same, isNumber, read⟩ := canonical.readBack
  rw [same]
  refine ⟨.number isNumber, ?_⟩
  rw [Tree.valueWithin?, read]
  rfl

theorem means_ofNat {n : Nat} (below : n < 2 ^ 64) :
    (Tree.ofNat n).Means depth (.number (.natural n)) :=
  (Number.Canonical.natural below).means

/-- What a document holds of a double. -/
def Value.ofDouble (x : Float) : Value := if x.isFinite then .number (.real x) else .null

theorem means_ofDouble (x : Float) : (Tree.ofDouble x).Means depth (.ofDouble x) := by
  by_cases finite : x.isFinite
  · rw [Value.ofDouble, if_pos finite]
    exact (Number.Canonical.real finite).means
  · rw [Value.ofDouble, Tree.ofDouble, if_neg finite, if_neg finite]
    exact means_null

theorem means_array {items : List Value} (all : ∀ item ∈ items, item.tree.Means depth item) :
    (Tree.array (items.map Value.tree)).Means (depth + 1) (.array items) where
  writable := .array (List.forall_mem_map.mpr fun item member => (all item member).writable)
  reads := by
    have read : valuesWithin? depth (items.map Value.tree) = some items := by
      induction items with
      | nil => rfl
      | cons item items ih =>
          obtain ⟨first, others⟩ := List.forall_mem_cons.mp all
          rw [List.map_cons, valuesWithin?, first.reads, ih others]
    rw [Tree.valueWithin?, if_neg (Nat.succ_ne_zero _), Nat.add_sub_cancel, read]
    rfl

section Fields

variable {trees : List (List Piece × Tree)} {values : List (String × Value)}

theorem FieldsMean.keys (mean : FieldsMean depth trees values) :
    ∀ field ∈ trees, ∃ key : List Char, field.1 = key.map Piece.char := by
  induction mean with
  | nil => simp
  | @cons key _ _ _ _ _ _ ih => exact List.forall_mem_cons.mpr ⟨⟨key.toList, rfl⟩, ih⟩

theorem FieldsMean.writable (mean : FieldsMean depth trees values) :
    ∀ field ∈ trees, field.2.Writable := by
  induction mean with
  | nil => simp
  | cons means _ ih => exact List.forall_mem_cons.mpr ⟨means.writable, ih⟩

theorem FieldsMean.reads (mean : FieldsMean depth trees values) :
    fieldsWithin? depth trees = some values := by
  induction mean with
  | nil => rfl
  | cons means _ ih =>
      rw [field, fieldsWithin?, pieceText?_chars, means.reads, ih]
      simp

theorem Tree.Means.object (mean : FieldsMean depth trees values) :
    (Tree.object trees).Means (depth + 1) (.object (Fields.ofList values)) where
  writable := .object mean.keys mean.writable
  reads := by
    rw [Tree.valueWithin?, if_neg (Nat.succ_ne_zero _), Nat.add_sub_cancel, mean.reads]
    rfl

end Fields

theorem Tree.Means.ofText?_pretty {tree : Tree} {value : Value}
    (means : tree.Means depthLimit value) : Value.ofText? tree.pretty = some value := by
  rw [Value.ofText?, Json.ofText?_pretty means.writable, Option.bind_some]
  exact means.reads

end Means

/-! ## Values -/

theorem valueTrees_eq (items : List Value) : valueTrees items = items.map Value.tree := by
  induction items with
  | nil => rfl
  | cons item items ih => rw [valueTrees, ih, List.map_cons]

theorem fieldsMean_fieldTrees {depth : Nat} {fields : Fields}
    (all : ∀ field ∈ fields, field.2.tree.Means depth field.2) :
    FieldsMean depth (fieldTrees fields) fields := by
  induction fields with
  | nil => exact .nil
  | cons held fields ih =>
      obtain ⟨first, others⟩ := List.forall_mem_cons.mp all
      exact .cons first (ih others)

namespace Value

theorem Readable.means {depth : Nat} {value : Value} (readable : value.Readable depth) :
    value.tree.Means depth value := by
  induction readable with
  | null => exact means_null
  | boolean flag => exact means_boolean flag
  | number canonical => exact canonical.means
  | text text => exact means_ofString text
  | array all ih =>
      rw [Value.tree, valueTrees_eq]
      exact means_array ih
  | object sorted all ih =>
      have object := Tree.Means.object (fieldsMean_fieldTrees ih)
      rwa [Fields.ofList_of_sorted sorted] at object

theorem Readable.ofText?_document {value : Value} (readable : value.Readable depthLimit) :
    Value.ofText? value.document = some value :=
  readable.means.ofText?_pretty

/-- A document is read back from the file that it was saved to. -/
theorem Readable.readDocument_document {value : Value} (readable : value.Readable depthLimit)
    (path : String) : readDocument path (some (Utf8.encode value.document)) = .ok value := by
  simp only [readDocument, Option.bind_some, Utf8.decode?_encode, readable.ofText?_document]

end Value

end InferenceBench.Json
