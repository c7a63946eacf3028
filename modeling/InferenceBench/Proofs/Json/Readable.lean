import InferenceBench.Json.Document
import InferenceBench.Proofs.Json.Fields

/-! # What reading gives

A document that was read has numbers in the one form that reading gives them, sorted fields, and
no more containers inside each other than the limit allows. -/

namespace InferenceBench.Json

/-- A number as reading gives it: integers that fit in 64 bits are no doubles, and zero has no
minus sign. -/
inductive Number.Canonical : Number → Prop where
  | natural {n : Nat} (below : n < 2 ^ 64) : Canonical (.natural n)
  | negative {n : Nat} (positive : 0 < n) (le : n ≤ 2 ^ 63) : Canonical (.negative n)
  | real {x : Float} (finite : x.isFinite = true) : Canonical (.real x)

theorem Number.canonical_of_ofText? {text : List Char} {number : Number}
    (read : ofText? text = some number) : number.Canonical := by
  simp only [ofText?] at read
  generalize (if text.head? == some '-' then text.drop 1 else text) = digits at read
  split at read
  · next small =>
      obtain rfl := Option.some.inj read
      simp only [Bool.and_eq_true, decide_eq_true_eq] at small
      exact .natural small.2
  · split at read
    · next small =>
        obtain rfl := Option.some.inj read
        simp only [Bool.and_eq_true, decide_eq_true_eq] at small
        exact .negative small.1.2 small.2
    · split at read
      · split at read
        · next finite =>
            obtain rfl := Option.some.inj read
            exact .real finite
        · cases read
      · cases read

/-- A value that can be read inside `depth` further containers. -/
inductive Value.Readable : Nat → Value → Prop where
  | null {depth : Nat} : Readable depth .null
  | boolean {depth : Nat} (flag : Bool) : Readable depth (.boolean flag)
  | number {depth : Nat} {number : Number} (canonical : number.Canonical) :
      Readable depth (.number number)
  | text {depth : Nat} (text : String) : Readable depth (.text text)
  | array {depth : Nat} {items : List Value} (all : ∀ item ∈ items, Readable depth item) :
      Readable (depth + 1) (.array items)
  | object {depth : Nat} {fields : Fields} (sorted : fields.Sorted)
      (all : ∀ field ∈ fields, Readable depth field.2) : Readable (depth + 1) (.object fields)

mutual

theorem readable_of_valueWithin? (depth : Nat) : ∀ (tree : Tree) {value : Value},
    tree.valueWithin? depth = some value → value.Readable depth
  | .null, value, read => by
      obtain rfl := Option.some.inj read
      exact .null
  | .boolean flag, value, read => by
      obtain rfl := Option.some.inj read
      exact .boolean flag
  | .number text, value, read => by
      obtain ⟨number, inText, rfl⟩ := Option.map_eq_some_iff.mp read
      exact .number (Number.canonical_of_ofText? inText)
  | .text pieces, value, read => by
      obtain ⟨text, -, rfl⟩ := Option.map_eq_some_iff.mp read
      exact .text _
  | .array items, value, read => by
      cases depth with
      | zero => cases read
      | succ depth =>
          obtain ⟨values, inItems, rfl⟩ := Option.map_eq_some_iff.mp read
          exact .array (readable_of_valuesWithin? depth items inItems)
  | .object fields, value, read => by
      cases depth with
      | zero => cases read
      | succ depth =>
          obtain ⟨values, inFields, rfl⟩ := Option.map_eq_some_iff.mp read
          exact .object (Fields.sorted_ofList values) fun field member =>
            readable_of_fieldsWithin? depth fields inFields field (Fields.of_mem_ofList member)

theorem readable_of_valuesWithin? (depth : Nat) : ∀ (items : List Tree) {values : List Value},
    valuesWithin? depth items = some values → ∀ value ∈ values, value.Readable depth
  | [], values, read => by
      obtain rfl := Option.some.inj read
      simp
  | item :: rest, values, read => by
      simp only [valuesWithin?] at read
      split at read
      · next value others first later =>
          obtain rfl := Option.some.inj read
          exact List.forall_mem_cons.mpr
            ⟨readable_of_valueWithin? depth item first, readable_of_valuesWithin? depth rest later⟩
      · cases read

theorem readable_of_fieldsWithin? (depth : Nat) : ∀ (fields : List (List Piece × Tree))
    {values : List (String × Value)},
    fieldsWithin? depth fields = some values → ∀ field ∈ values, field.2.Readable depth
  | [], values, read => by
      obtain rfl := Option.some.inj read
      simp
  | (key, tree) :: rest, values, read => by
      simp only [fieldsWithin?] at read
      split at read
      · next name value others _ first later =>
          obtain rfl := Option.some.inj read
          exact List.forall_mem_cons.mpr
            ⟨readable_of_valueWithin? depth tree first, readable_of_fieldsWithin? depth rest later⟩
      · cases read

end

namespace Value

theorem readable_of_ofText? {text : List Char} {value : Value}
    (read : Value.ofText? text = some value) : value.Readable depthLimit := by
  obtain ⟨tree, -, ofTree⟩ := Option.bind_eq_some_iff.mp read
  exact readable_of_valueWithin? _ tree ofTree

theorem readable_of_readDocument {path : String} {bytes : Option (List UInt8)} {value : Value}
    (read : readDocument path bytes = .ok value) : value.Readable depthLimit := by
  simp only [readDocument] at read
  split at read
  · cases read
  · split at read
    · next ofText =>
        obtain rfl := Except.ok.inj read
        exact readable_of_ofText? ofText
    · cases read

end Value

end InferenceBench.Json
