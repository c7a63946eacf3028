import InferenceBench.Proofs.Json.Readable
import InferenceBench.Proofs.Numeral.Scale

/-! # The numbers of documents

A number that was read is an integer that fits in 64 bits or a finite double, and as a double it
is always finite. -/

namespace InferenceBench.Json

namespace Number

inductive InRange : Number → Prop where
  | natural {n : Nat} (below : n < 2 ^ 64) : InRange (.natural n)
  | negative {n : Nat} (le : n ≤ 2 ^ 63) : InRange (.negative n)
  | real {x : Float} (finite : x.isFinite = true) : InRange (.real x)

theorem InRange.isFinite_toDouble {number : Number} (range : number.InRange) :
    number.toDouble.isFinite = true := by
  cases range with
  | natural below => exact Numeral.isFinite_ofNat below
  | negative le => exact Numeral.isFinite_neg (Numeral.isFinite_ofNat (by omega))
  | real finite => exact finite

theorem Canonical.inRange {number : Number} (canonical : number.Canonical) : number.InRange := by
  cases canonical with
  | natural below => exact .natural below
  | negative positive le => exact .negative le
  | real finite => exact .real finite

end Number

/-- A value all of whose numbers fit. -/
inductive Value.InRange : Value → Prop where
  | null : InRange .null
  | boolean (flag : Bool) : InRange (.boolean flag)
  | number {number : Number} (range : number.InRange) : InRange (.number number)
  | text (text : String) : InRange (.text text)
  | array {items : List Value} (all : ∀ item ∈ items, InRange item) : InRange (.array items)
  | object {fields : Fields} (all : ∀ field ∈ fields, InRange field.2) : InRange (.object fields)

namespace Value

theorem InRange.field? {value held : Value} {key : String} (range : value.InRange)
    (found : value.field? key = some held) : held.InRange := by
  cases range with
  | object all => exact all _ (Fields.mem_of_find? found)
  | null | boolean | number | text | array => simp [Value.field?] at found

theorem InRange.isFinite_asDouble {value : Value} {x : Float} (range : value.InRange)
    (double : value.asDouble? = some x) : x.isFinite = true := by
  cases range with
  | number range =>
      obtain rfl := Option.some.inj double
      exact range.isFinite_toDouble
  | null | boolean | text | array | object => simp [asDouble?, asNumber?] at double

theorem Readable.inRange {depth : Nat} {value : Value} (readable : value.Readable depth) :
    value.InRange := by
  induction readable with
  | null => exact .null
  | boolean flag => exact .boolean flag
  | number canonical => exact .number canonical.inRange
  | text text => exact .text text
  | array all ih => exact .array ih
  | object sorted all ih => exact .object ih

theorem inRange_of_readDocument {path : String} {bytes : Option (List UInt8)} {value : Value}
    (read : readDocument path bytes = .ok value) : value.InRange :=
  (readable_of_readDocument read).inRange

end Value

end InferenceBench.Json
