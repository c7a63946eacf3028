import InferenceBench.Json.Record
import InferenceBench.Proofs.Json.Readable
import Mathlib.Data.List.Forall2
import Mathlib.Data.List.Nodup

/-! # Records and lookups

A record that is read from a tree is the one that lookups in the value of the tree find, as long as
no key is repeated and the record is not written as an array of its fields. Each way to read a field
has its counterpart among the ways to look at a value, so readers of records are compared field by
field.
-/

namespace InferenceBench.Json

/-- The name that a key spells. -/
def keyName? (key : List Piece) : Option String := (pieceText? key).map String.ofList

/-- A tree in which no object has two fields of one name. -/
inductive Tree.Unrepeated : Tree → Prop
  | null : Unrepeated .null
  | boolean (flag : Bool) : Unrepeated (.boolean flag)
  | number (text : List Char) : Unrepeated (.number text)
  | text (pieces : List Piece) : Unrepeated (.text pieces)
  | array {items} : (∀ item ∈ items, Unrepeated item) → Unrepeated (.array items)
  | object {fields} : (fields.map fun field => keyName? field.1).Nodup →
      (∀ field ∈ fields, Unrepeated field.2) → Unrepeated (.object fields)

namespace Tree

@[simp] theorem unrepeated_null : Unrepeated .null := .null
@[simp] theorem unrepeated_number (text : List Char) : (number text).Unrepeated := .number text
@[simp] theorem unrepeated_text (pieces : List Piece) : (Tree.text pieces).Unrepeated :=
  .text pieces

@[simp] theorem unrepeated_array {items : List Tree} :
    (array items).Unrepeated ↔ ∀ item ∈ items, item.Unrepeated :=
  ⟨fun | .array all => all, .array⟩

@[simp] theorem unrepeated_object {fields : List (List Piece × Tree)} :
    (object fields).Unrepeated ↔ (fields.map fun field => keyName? field.1).Nodup ∧
      ∀ field ∈ fields, field.2.Unrepeated :=
  ⟨fun | .object distinct all => ⟨distinct, all⟩, fun ⟨distinct, all⟩ => .object distinct all⟩

end Tree

/-- A tree without repetitions, and its value. -/
structure Tree.Spells (tree : Tree) (value : Value) : Prop where
  read : ∃ depth, tree.valueWithin? depth = some value
  unrepeated : tree.Unrepeated

/-- The field of a tree and that of its value. -/
structure FieldSpells (field : List Piece × Tree) (entry : String × Value) : Prop where
  key : keyName? field.1 = some entry.1
  tree : field.2.Spells entry.2

theorem items_spelled {depth : Nat} {items : List Tree} {values : List Value}
    (read : valuesWithin? depth items = some values) (all : ∀ item ∈ items, item.Unrepeated) :
    List.Forall₂ Tree.Spells items values := by
  induction items generalizing values with
  | nil =>
      obtain rfl := Option.some.inj read
      exact .nil
  | cons item items ih =>
      obtain ⟨first, others⟩ := List.forall_mem_cons.mp all
      simp only [valuesWithin?] at read
      split at read
      · next value rest here later =>
          obtain rfl := Option.some.inj read
          exact .cons ⟨⟨depth, here⟩, first⟩ (ih later others)
      · cases read

theorem fields_spelled {depth : Nat} {fields : List (List Piece × Tree)}
    {values : List (String × Value)} (read : fieldsWithin? depth fields = some values)
    (all : ∀ field ∈ fields, field.2.Unrepeated) : List.Forall₂ FieldSpells fields values := by
  induction fields generalizing values with
  | nil =>
      obtain rfl := Option.some.inj read
      exact .nil
  | cons field fields ih =>
      obtain ⟨first, others⟩ := List.forall_mem_cons.mp all
      obtain ⟨key, tree⟩ := field
      simp only [fieldsWithin?] at read
      split at read
      · next name value rest spelled here later =>
          obtain rfl := Option.some.inj read
          exact .cons ⟨by simp [keyName?, spelled], ⟨depth, here⟩, first⟩ (ih later others)
      · cases read

theorem names_nodup {fields : List (List Piece × Tree)} {values : List (String × Value)}
    (spelled : List.Forall₂ FieldSpells fields values)
    (distinct : (fields.map fun field => keyName? field.1).Nodup) :
    (values.map Prod.fst).Nodup := by
  have same : fields.map (fun field => keyName? field.1) = (values.map Prod.fst).map some := by
    induction spelled with
    | nil => rfl
    | cons first _ ih =>
        rw [List.map_cons] at distinct
        simp [first.key, ih distinct.of_cons]
  rw [same] at distinct
  exact List.Nodup.of_map some distinct

namespace Slots

theorem fill?_of_empty {slots : Slots} {key : String} (empty : slots.tree? key = none)
    (tree : Tree) :
    ∃ filled, fill? key tree slots = some filled ∧ filled.map Prod.fst = slots.map Prod.fst ∧
      ∀ name, filled.tree? name =
        if name = key ∧ key ∈ slots.map Prod.fst then some tree else slots.tree? name := by
  induction slots with
  | nil => exact ⟨[], rfl, rfl, by simp⟩
  | cons slot rest ih =>
      obtain ⟨other, held⟩ := slot
      by_cases here : other = key
      · subst here
        obtain rfl : held = none := by simpa [tree?] using empty
        refine ⟨(other, some tree) :: rest, by simp [fill?], rfl, fun name => ?_⟩
        by_cases same : name = other <;> simp [tree?, same]
      · obtain ⟨filled, fills, names, found⟩ :=
          ih (by simpa [tree?, Ne.symm here] using empty)
        refine ⟨(other, held) :: filled, by simp [fill?, here, fills], by simp [names], ?_⟩
        intro name
        have inRest : key ∈ ((other, held) :: rest).map Prod.fst ↔ key ∈ rest.map Prod.fst := by
          simp [Ne.symm here]
        by_cases same : name = other
        · subst same
          simp [tree?, here]
        · simp only [tree?, if_neg same, found, inRest]

theorem fillAll?_spelled {fields : List (List Piece × Tree)} {values : List (String × Value)}
    (spelled : List.Forall₂ FieldSpells fields values) (distinct : (values.map Prod.fst).Nodup)
    {slots : Slots} (empty : ∀ name ∈ values.map Prod.fst, slots.tree? name = none) :
    ∃ filled, slots.fillAll? fields = some filled ∧
      (∀ name ∉ values.map Prod.fst, filled.tree? name = slots.tree? name) ∧
      ∀ entry ∈ values, entry.1 ∈ slots.map Prod.fst →
        ∃ tree, filled.tree? entry.1 = some tree ∧ tree.Spells entry.2 := by
  -- by induction on the fields: each of them finds its slot empty, since no name is repeated
  induction spelled generalizing slots with
  | nil => exact ⟨slots, rfl, by simp, by simp⟩
  | @cons field entry fields values first _ ih =>
      obtain ⟨key, tree⟩ := field
      obtain ⟨text, spelled, name⟩ := Option.map_eq_some_iff.mp first.key
      obtain ⟨absent, distinct⟩ := List.nodup_cons.mp distinct
      obtain ⟨here, later⟩ := List.forall_mem_cons.mp empty
      obtain ⟨between, fills, names, found⟩ := fill?_of_empty here tree
      have stillEmpty : ∀ name ∈ values.map Prod.fst, between.tree? name = none := by
        intro name member
        have other : name ≠ entry.1 := fun same => absent (same ▸ member)
        rw [found, if_neg fun both => other both.1, later name member]
      obtain ⟨filled, all, kept, held⟩ := ih distinct stillEmpty
      refine ⟨filled, ?_, ?_, ?_⟩
      · simp only [fillAll?, spelled, Option.bind_eq_bind, Option.bind_some, name, fills, all]
      · intro other notMem
        obtain ⟨distinct, notMem⟩ := List.ne_and_not_mem_of_not_mem_cons notMem
        rw [kept other notMem, found, if_neg fun both => distinct both.1]
      · intro other member inSlots
        rcases List.mem_cons.mp member with rfl | member
        · refine ⟨tree, ?_, first.tree⟩
          rw [kept _ absent, found, if_pos ⟨rfl, inSlots⟩]
        · exact held other member (names ▸ inSlots)

end Slots

namespace Fields

theorem find?_ofList_of_notMem {values : List (String × Value)} {name : String}
    (absent : name ∉ values.map Prod.fst) : (ofList values).find? name = none :=
  find?_insertAll_of_notMem absent []

theorem find?_ofList_of_mem {values : List (String × Value)} {entry : String × Value}
    (member : entry ∈ values) (distinct : (values.map Prod.fst).Nodup) :
    (ofList values).find? entry.1 = some entry.2 := by
  obtain ⟨before, after, rfl⟩ := List.append_of_mem member
  rw [List.map_append, List.map_cons] at distinct
  have later : entry.1 ∉ after.map Prod.fst :=
    (List.nodup_cons.mp distinct.of_append_right).1
  have split : ofList (before ++ entry :: after) =
      ((insertAll [] before).insert entry.1 entry.2).insertAll after := by
    rw [← insertAll_cons, ← insertAll_append]
    rfl
  rw [split, find?_insertAll_of_notMem later, find?_insert_self]

end Fields

/-- The slots of a record and the fields of its value, under the names of the record. -/
def SlotsSpell (names : List String) (slots : Slots) (fields : Fields) : Prop :=
  ∀ name ∈ names, Option.Rel Tree.Spells (slots.tree? name) (fields.find? name)

theorem slots_spelled {fields : List (List Piece × Tree)} {values : List (String × Value)}
    (spelled : List.Forall₂ FieldSpells fields values)
    (distinct : (fields.map fun field => keyName? field.1).Nodup) (names : List String) :
    ∃ slots, (Slots.ofNames names).fillAll? fields = some slots ∧
      SlotsSpell names slots (Fields.ofList values) := by
  have distinct := names_nodup spelled distinct
  have empty : ∀ name, (Slots.ofNames names).tree? name = none := by
    intro name
    induction names with
    | nil => rfl
    | cons other names ih =>
        rw [Slots.ofNames, List.map_cons, Slots.tree?]
        split
        · rfl
        · exact ih
  have slotNames : (Slots.ofNames names).map Prod.fst = names := by
    simp [Slots.ofNames, Function.comp_def]
  obtain ⟨slots, fills, kept, held⟩ :=
    Slots.fillAll?_spelled spelled distinct fun name _ => empty name
  refine ⟨slots, fills, fun name known => ?_⟩
  by_cases member : name ∈ values.map Prod.fst
  · obtain ⟨entry, among, rfl⟩ := List.mem_map.mp member
    obtain ⟨tree, found, spells⟩ := held entry among (by rwa [slotNames])
    rw [found, Fields.find?_ofList_of_mem among distinct]
    exact .some spells
  · rw [kept name member, empty, Fields.find?_ofList_of_notMem member]
    exact .none

/-- How a tree without repetitions spells its value. -/
inductive Tree.Spelling : Tree → Value → Prop
  | null : Spelling .null .null
  | boolean (flag : Bool) : Spelling (.boolean flag) (.boolean flag)
  | number {text number} : Number.ofText? text = some number →
      Spelling (.number text) (.number number)
  | text {pieces text} : pieceText? pieces = some text →
      Spelling (.text pieces) (.text (String.ofList text))
  | array {items values} : List.Forall₂ Tree.Spells items values →
      Spelling (.array items) (.array values)
  | object {fields values} : List.Forall₂ FieldSpells fields values →
      (fields.map fun field => keyName? field.1).Nodup →
      Spelling (.object fields) (.object (Fields.ofList values))

theorem Tree.Spells.spelling {tree : Tree} {value : Value} (spells : tree.Spells value) :
    tree.Spelling value := by
  obtain ⟨⟨depth, read⟩, unrepeated⟩ := spells
  cases unrepeated with
  | null =>
      obtain rfl := Option.some.inj read
      exact .null
  | boolean flag =>
      obtain rfl := Option.some.inj read
      exact .boolean flag
  | number text =>
      obtain ⟨number, inText, rfl⟩ := Option.map_eq_some_iff.mp read
      exact .number inText
  | text pieces =>
      obtain ⟨text, inPieces, rfl⟩ := Option.map_eq_some_iff.mp read
      exact .text inPieces
  | array all =>
      cases depth with
      | zero => cases read
      | succ depth =>
          obtain ⟨values, inItems, rfl⟩ := Option.map_eq_some_iff.mp read
          exact .array (items_spelled inItems all)
  | object distinct all =>
      cases depth with
      | zero => cases read
      | succ depth =>
          obtain ⟨values, inFields, rfl⟩ := Option.map_eq_some_iff.mp read
          exact .object (fields_spelled inFields all) distinct

/-! ## Looking at values -/

section

variable {α : Type} (look : Value → Option α)

def Value.fields? : Value → Option Fields
  | .object fields => some fields
  | _ => none

def Value.nullable? : Value → Option (Option α)
  | .null => some none
  | value => (look value).map some

def Value.list? : Value → Option (List α)
  | .array items => items.mapM look
  | _ => none

def Value.naturalBelow? (bound : Nat) : Value → Option Nat
  | .number (.natural n) => if n < bound then some n else none
  | _ => none

def Fields.required? (name : String) (fields : Fields) : Option α := (fields.find? name).bind look

def Fields.withDefault? (default : α) (name : String) (fields : Fields) : Option α :=
  (fields.find? name).elim (some default) look

end

/-! ## Readers and lookups -/

section

variable {tree : Tree} {value : Value} (spells : tree.Spells value)
include spells

theorem string?_eq_asText? : tree.string? = value.asText? := by
  cases spells.spelling with
  | text inPieces => simp [Tree.string?, Value.asText?, inPieces]
  | null | boolean | number | array | object => rfl

theorem naturalBelow?_eq (bound : Nat) : tree.naturalBelow? bound = value.naturalBelow? bound := by
  cases spells.spelling with
  | @number text number inText =>
      simp only [Tree.naturalBelow?, Tree.number?, inText]
      cases number <;> rfl
  | null | boolean | text | array | object => rfl

variable {α : Type} {read : Tree → Option α} {look : Value → Option α}

theorem nullable?_eq (same : read tree = look value) :
    tree.nullable? read = value.nullable? look := by
  cases spells.spelling with
  | null => rfl
  | boolean | number | text | array | object => exact congrArg (Option.map some) same

theorem list?_eq (same : ∀ items, value = .array items →
      ∀ item ∈ items, ∀ tree : Tree, tree.Spells item → read tree = look item) :
    tree.list? read = value.list? look := by
  cases spells.spelling with
  | @array items values spelled =>
      replace same := same values rfl
      simp only [Tree.list?, Value.list?]
      clear spells
      induction spelled with
      | nil => rfl
      | cons first _ ih =>
          obtain ⟨here, later⟩ := List.forall_mem_cons.mp same
          rw [List.mapM_cons, List.mapM_cons, here _ first, ih later]
  | null | boolean | number | text | object => rfl

/-- A record that is not written as an array is read from the slots of its fields. -/
theorem record_eq {names : List String} {readSlots : Slots → Option α}
    {lookFields : Fields → Option α} (plain : ∀ items, value ≠ .array items)
    (same : ∀ slots fields, value = .object fields → SlotsSpell names slots fields →
      readSlots slots = lookFields fields) :
    (tree.slots? names).bind readSlots = value.fields?.bind lookFields := by
  cases spells.spelling with
  | object spelled distinct =>
      obtain ⟨slots, filled, agree⟩ := slots_spelled spelled distinct names
      rw [Tree.slots?, filled]
      exact same slots _ rfl agree
  | array => exact absurd rfl (plain _)
  | null | boolean | number | text => rfl

end

section

variable {α : Type} {read : Tree → Option α} {look : Value → Option α} {names : List String}
  {slots : Slots} {fields : Fields} {name : String} (agree : SlotsSpell names slots fields)
  (known : name ∈ names)
  (same : ∀ value, fields.find? name = some value →
    ∀ tree : Tree, tree.Spells value → read tree = look value)
include agree known same

theorem required_eq : slots.required read name = fields.required? look name := by
  have agree := agree name known
  rw [Slots.required, Fields.required?]
  generalize slots.tree? name = held at agree
  generalize fields.find? name = found at agree same
  cases agree with
  | none => rfl
  | some spells => exact same _ rfl _ spells

theorem withDefault_eq (default : α) :
    slots.withDefault default read name = fields.withDefault? look default name := by
  have agree := agree name known
  rw [Slots.withDefault, Fields.withDefault?]
  generalize slots.tree? name = held at agree
  generalize fields.find? name = found at agree same
  cases agree with
  | none => rfl
  | some spells => exact same _ rfl _ spells

end

/-! ## Fields that are not looked at -/

/-- Fields that are alike under the names, each in its own way. All other fields may differ. -/
def Fields.AlikeUnder (known : List (String × (Value → Value → Prop))) (fields others : Fields) :
    Prop :=
  ∀ name alike, (name, alike) ∈ known → Option.Rel alike (fields.find? name) (others.find? name)

inductive Value.RecordsAlike (known : List (String × (Value → Value → Prop))) :
    Value → Value → Prop
  | same (value : Value) : RecordsAlike known value value
  | object {fields others : Fields} : fields.AlikeUnder known others →
      RecordsAlike known (.object fields) (.object others)

inductive Value.ListsAlike (alike : Value → Value → Prop) : Value → Value → Prop
  | same (value : Value) : ListsAlike alike value value
  | array {items others} : List.Forall₂ alike items others →
      ListsAlike alike (.array items) (.array others)

section

variable {α : Type} {look : Value → Option α} {alike : Value → Value → Prop}

theorem elim_congr {held other : Option Value} (related : Option.Rel alike held other)
    (same : ∀ value other, alike value other → look value = look other) (default : Option α) :
    held.elim default look = other.elim default look := by
  cases related with
  | none => rfl
  | some alike => exact same _ _ alike

theorem required?_congr {fields others : Fields} {name : String}
    (held : Option.Rel alike (fields.find? name) (others.find? name))
    (same : ∀ value other, alike value other → look value = look other) :
    fields.required? look name = others.required? look name := by
  have bind_eq_elim (held : Option Value) : held.bind look = held.elim none look := by
    cases held <;> rfl
  rw [Fields.required?, Fields.required?, bind_eq_elim, bind_eq_elim]
  exact elim_congr held same none

theorem withDefault?_congr {fields others : Fields} {name : String}
    (held : Option.Rel alike (fields.find? name) (others.find? name))
    (same : ∀ value other, alike value other → look value = look other) (default : α) :
    fields.withDefault? look default name = others.withDefault? look default name :=
  elim_congr held same (some default)

variable {known : List (String × (Value → Value → Prop))} {value other : Value}

theorem record_congr {lookFields : Fields → Option α} (alike : value.RecordsAlike known other)
    (same : ∀ fields others : Fields, fields.AlikeUnder known others →
      lookFields fields = lookFields others) :
    value.fields?.bind lookFields = other.fields?.bind lookFields := by
  cases alike with
  | same => rfl
  | object alike => exact same _ _ alike

theorem nullable?_congr (alike : value.RecordsAlike known other) (same : look value = look other) :
    value.nullable? look = other.nullable? look := by
  cases alike with
  | same => rfl
  | object => exact congrArg (Option.map some) same

theorem list?_congr (lists : value.ListsAlike alike other)
    (same : ∀ value other, alike value other → look value = look other) :
    value.list? look = other.list? look := by
  cases lists with
  | same => rfl
  | array alike =>
      simp only [Value.list?]
      induction alike with
      | nil => rfl
      | cons first _ ih => rw [List.mapM_cons, List.mapM_cons, same _ _ first, ih]

end

end InferenceBench.Json
