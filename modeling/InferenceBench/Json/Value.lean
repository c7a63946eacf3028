import InferenceBench.Json.Tree
import InferenceBench.Numeral.Layout
import InferenceBench.Numeral.Reading

/-! # JSON values

A value is what a document means once its text no longer matters: numbers are integers of 64 bits
or doubles, strings are texts, and an object maps each key to one value. The fields of an object
are kept sorted by their keys, and where a text repeats a key, the last one counts. -/

namespace InferenceBench.Json

/-- Integers are kept apart from doubles as long as they fit in 64 bits. -/
inductive Number where
  | natural (n : Nat)
  /-- The integer `-n`. -/
  | negative (n : Nat)
  | real (x : Float)
  deriving Repr, DecidableEq

namespace Number

/-- The number that a written one stands for; none if it is too large for a double. Zero with a
minus sign is a double, since no integer has a negative zero. A number that is no integer is rounded
to the nearest double; a reader that prefers speed may be off in the last place where many digits
are written. -/
def ofText? (text : List Char) : Option Number :=
  let negative := text.head? == some '-'
  let digits := if negative then text.drop 1 else text
  let n := Numeral.ofDigits digits
  if digits.all Char.isDigit && !negative && n < UInt64.size then some (.natural n)
  else if digits.all Char.isDigit && negative && 0 < n && n ≤ UInt64.size / 2 then
    some (.negative n)
  else
    match Numeral.readUnsignedDouble? negative digits with
    | some x => if x.isFinite then some (.real x) else none
    | none => none

def toDouble : Number → Float
  | .natural n => Float.ofNat n
  | .negative n => -Float.ofNat n
  | .real x => x

/-- The nearest 32-bit number. -/
def toSingle : Number → Float32
  | .natural n => Numeral.nearestSingle false n 1
  | .negative n => Numeral.nearestSingle true n 1
  | .real x => Numeral.singleOfDouble x

end Number

inductive Value where
  | null
  | boolean (value : Bool)
  | number (value : Number)
  | text (value : String)
  | array (items : List Value)
  | object (fields : List (String × Value))
  deriving Repr, Inhabited

/-! ## Equality -/

mutual

/-- Whether two values are equal, worked out by the structure of both. -/
def Value.same : Value → Value → Bool
  | .null, .null => true
  | .boolean a, .boolean b => a == b
  | .number a, .number b => a == b
  | .text a, .text b => a == b
  | .array as, .array bs => sameItems as bs
  | .object as, .object bs => sameFields as bs
  | _, _ => false

def sameItems : List Value → List Value → Bool
  | [], [] => true
  | a :: as, b :: bs => a.same b && sameItems as bs
  | _, _ => false

def sameFields : List (String × Value) → List (String × Value) → Bool
  | [], [] => true
  | (name, a) :: as, (other, b) :: bs => name == other && a.same b && sameFields as bs
  | _, _ => false

end

mutual

theorem Value.same_iff : ∀ a b : Value, a.same b = true ↔ a = b
  | .array as, b => by cases b <;> simp [Value.same, sameItems_iff as]
  | .object as, b => by cases b <;> simp [Value.same, sameFields_iff as]
  | .null, b | .boolean _, b | .number _, b | .text _, b => by cases b <;> simp [Value.same]

theorem sameItems_iff : ∀ as bs : List Value, sameItems as bs = true ↔ as = bs
  | [], bs => by cases bs <;> simp [sameItems]
  | a :: as, bs => by cases bs <;> simp [sameItems, Value.same_iff a, sameItems_iff as]

theorem sameFields_iff : ∀ as bs : List (String × Value), sameFields as bs = true ↔ as = bs
  | [], bs => by cases bs <;> simp [sameFields]
  | (name, a) :: as, bs => by
      cases bs <;> simp [sameFields, Value.same_iff a, sameFields_iff as, Prod.ext_iff, and_assoc]

end

instance : DecidableEq Value := fun a b => decidable_of_iff _ (Value.same_iff a b)

/-! ## Fields -/

/-- The fields of an object in the order of their keys. -/
abbrev Fields := List (String × Value)

namespace Fields

/-- Sets the value of a key. -/
def insert (key : String) (value : Value) : Fields → Fields
  | [] => [(key, value)]
  | (other, held) :: rest =>
    if key = other then (key, value) :: rest
    else if key < other then (key, value) :: (other, held) :: rest
    else (other, held) :: insert key value rest

def find? (key : String) : Fields → Option Value
  | [] => none
  | (other, held) :: rest => if key = other then some held else find? key rest

/-- The object that a text with these fields, in this order, spells. -/
def ofList (fields : List (String × Value)) : Fields :=
  fields.foldl (fun map (key, value) => insert key value map) []

end Fields

namespace Value

/-- The value of a key; only objects have any. -/
def field? (key : String) : Value → Option Value
  | .object fields => Fields.find? key fields
  | _ => none

def asText? : Value → Option String
  | .text value => some value
  | _ => none

def asNumber? : Value → Option Number
  | .number value => some value
  | _ => none

def asDouble? (value : Value) : Option Float := value.asNumber?.map Number.toDouble

def asNatural? : Value → Option Nat
  | .number (.natural n) => some n
  | _ => none

end Value

mutual

/-- The value of a tree in which no more than `depth` containers lie inside each other. -/
def Tree.valueWithin? (depth : Nat) : Tree → Option Value
  | .null => some .null
  | .boolean value => some (.boolean value)
  | .number text => (Number.ofText? text).map .number
  | .text pieces => (pieceText? pieces).map fun text => .text (String.ofList text)
  | .array items => if depth = 0 then none else (valuesWithin? (depth - 1) items).map .array
  | .object fields =>
    if depth = 0 then none
    else (fieldsWithin? (depth - 1) fields).map fun fields => .object (Fields.ofList fields)

def valuesWithin? (depth : Nat) : List Tree → Option (List Value)
  | [] => some []
  | item :: rest =>
    match item.valueWithin? depth, valuesWithin? depth rest with
    | some value, some values => some (value :: values)
    | _, _ => none

def fieldsWithin? (depth : Nat) : List (List Piece × Tree) → Option (List (String × Value))
  | [] => some []
  | (key, tree) :: rest =>
    match pieceText? key, tree.valueWithin? depth, fieldsWithin? depth rest with
    | some key, some value, some fields => some ((String.ofList key, value) :: fields)
    | _, _, _ => none

end

/-- How many containers of a document may lie inside each other. -/
def depthLimit : Nat := 127

def Tree.value? (tree : Tree) : Option Value := tree.valueWithin? depthLimit

def Value.ofText? (text : List Char) : Option Value := (Tree.ofText? text).bind Tree.value?

/-- A double as documents write it; they have no text for values that are not finite. -/
def Tree.ofDouble (x : Float) : Tree :=
  if x.isFinite then .number (Numeral.Layout.document.writeDouble x) else .null

def Tree.ofNat (n : Nat) : Tree := .number (Numeral.digitText n)

def Tree.ofString (text : String) : Tree := .ofChars text.toList

def Number.tree : Number → Tree
  | .natural n => .ofNat n
  | .negative n => .number ('-' :: Numeral.digitText n)
  | .real x => .ofDouble x

mutual

/-- The tree as which a value is written. -/
def Value.tree : Value → Tree
  | .null => .null
  | .boolean value => .boolean value
  | .number value => value.tree
  | .text value => .ofString value
  | .array items => .array (valueTrees items)
  | .object fields => .object (fieldTrees fields)

def valueTrees : List Value → List Tree
  | [] => []
  | value :: rest => value.tree :: valueTrees rest

def fieldTrees : List (String × Value) → List (List Piece × Tree)
  | [] => []
  | (key, value) :: rest => field key value.tree :: fieldTrees rest

end

end InferenceBench.Json
