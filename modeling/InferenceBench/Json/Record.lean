import InferenceBench.Json.Value

/-! # Reading records

A record with named fields is read from a tree directly, since of the fields that it does not
know nothing but the key is looked at. It may also be written as an array of its fields in their
declared order. -/

namespace InferenceBench.Json

/-- The trees of the named fields as a record holds them, one entry for each name. -/
abbrev Slots := List (String × Option Tree)

namespace Slots

/-- No field has been seen yet. -/
def ofNames (names : List String) : Slots := names.map fun name => (name, none)

/-- Puts a field in its slot. A slot is filled only once; a field without slot is dropped. -/
def fill? (key : String) (tree : Tree) : Slots → Option Slots
  | [] => some []
  | (name, held) :: rest =>
    if name = key then if held.isSome then none else some ((name, some tree) :: rest)
    else (fill? key tree rest).map ((name, held) :: ·)

/-- Puts every field in its slot; each key must be a text. -/
def fillAll? (slots : Slots) : List (List Piece × Tree) → Option Slots
  | [] => some slots
  | (key, tree) :: rest => do
    let key ← pieceText? key
    let slots ← fill? (String.ofList key) tree slots
    slots.fillAll? rest

/-- Gives the first slots the items; there may be no more of these than slots. -/
def place? : Slots → List Tree → Option Slots
  | slots, [] => some slots
  | [], _ :: _ => none
  | (name, _) :: rest, item :: items => (place? rest items).map ((name, some item) :: ·)

/-- The tree of a field, if the record has it. -/
def tree? (name : String) : Slots → Option Tree
  | [] => none
  | (other, held) :: rest => if name = other then held else tree? name rest

/-- A field that has to be there. -/
def required {α : Type} (read : Tree → Option α) (name : String) (slots : Slots) : Option α :=
  (slots.tree? name).bind read

/-- A field that has a default. -/
def withDefault {α : Type} (default : α) (read : Tree → Option α) (name : String)
    (slots : Slots) : Option α :=
  match slots.tree? name with
  | none => some default
  | some tree => read tree

end Slots

namespace Tree

/-- The fields of a record with these names. -/
def slots? (names : List String) : Tree → Option Slots
  | .object fields => (Slots.ofNames names).fillAll? fields
  | .array items => (Slots.ofNames names).place? items
  | _ => none

def string? : Tree → Option String
  | .text pieces => (pieceText? pieces).map String.ofList
  | _ => none

def number? : Tree → Option Number
  | .number digits => Number.ofText? digits
  | _ => none

/-- A number that is written as an integer and lies below the bound. -/
def naturalBelow? (bound : Nat) (tree : Tree) : Option Nat :=
  match tree.number? with
  | some (.natural n) => if n < bound then some n else none
  | _ => none

def double? (tree : Tree) : Option Float := tree.number?.map Number.toDouble

def single? (tree : Tree) : Option Float32 := tree.number?.map Number.toSingle

/-- A value that may be `null`. -/
def nullable? {α : Type} (read : Tree → Option α) : Tree → Option (Option α)
  | .null => some none
  | tree => (read tree).map some

def list? {α : Type} (read : Tree → Option α) : Tree → Option (List α)
  | .array items => items.mapM read
  | _ => none

end Tree

/-- A 32-bit number as documents write it. -/
def Tree.ofSingle (x : Float32) : Tree :=
  match Numeral.ofSingle x with
  | .finite negative magnitude =>
    .number (Numeral.Layout.singleDocument.writeStored (.finite negative magnitude))
  | _ => .null

end InferenceBench.Json
