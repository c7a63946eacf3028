import InferenceBench.Json.Value
import Mathlib.Data.List.Induction
import Mathlib.Data.String.Basic

/-! # Setting fields

Setting a field changes what is found under its key, and nothing else. Fields that are set again
are as if they had been set the last time only. Neither needs the fields to be sorted, so both also
hold for fields that no document was read for. Fields that are sorted stay sorted, and are the
object that they spell.
-/

namespace InferenceBench.Json.Fields

@[simp]
theorem find?_insert_self (key : String) (value : Value) (fields : Fields) :
    (fields.insert key value).find? key = some value := by
  induction fields with
  | nil => simp [insert, find?]
  | cons field rest ih =>
      obtain ⟨other, held⟩ := field
      simp only [insert]
      split
      · simp [find?]
      · next distinct =>
          split
          · simp [find?]
          · simpa [find?, distinct] using ih

theorem find?_insert_of_ne {key other : String} (distinct : key ≠ other) (value : Value)
    (fields : Fields) : (fields.insert other value).find? key = fields.find? key := by
  induction fields with
  | nil => simp [insert, find?, distinct]
  | cons field rest ih =>
      obtain ⟨present, held⟩ := field
      simp only [insert]
      split
      · next same => simp [find?, ← same, distinct]
      · split
        · simp [find?, distinct]
        · simp only [find?, ih]

theorem mem_of_find? {key : String} {value : Value} {fields : Fields}
    (found : fields.find? key = some value) : (key, value) ∈ fields := by
  induction fields with
  | nil => simp [find?] at found
  | cons field rest ih =>
      simp only [find?] at found
      split at found
      · next same =>
          obtain ⟨other, held⟩ := field
          obtain rfl : key = other := same
          obtain rfl := Option.some.inj found
          exact List.mem_cons_self
      · exact List.mem_cons_of_mem _ (ih found)

theorem of_mem_insert {key : String} {value : Value} {fields : Fields} {field : String × Value}
    (member : field ∈ fields.insert key value) : field = (key, value) ∨ field ∈ fields := by
  induction fields with
  | nil => simpa [insert] using member
  | cons other rest ih =>
      simp only [insert] at member
      split at member
      · grind
      · split at member <;> grind

theorem of_mem_ofList {fields : List (String × Value)} {field : String × Value}
    (member : field ∈ ofList fields) : field ∈ fields := by
  induction fields using List.reverseRecOn with
  | nil => simp [ofList] at member
  | append_singleton before last ih =>
      rw [ofList, List.foldl_append] at member
      obtain rfl | earlier := of_mem_insert member
      · simp
      · exact List.mem_append_left _ (ih earlier)

/-! ## Setting again -/

theorem insert_insert_self (key : String) (earlier value : Value) (fields : Fields) :
    (fields.insert key earlier).insert key value = fields.insert key value := by
  induction fields with
  | nil => simp [insert]
  | cons field rest ih =>
      obtain ⟨other, held⟩ := field
      simp only [insert]
      split
      · simp [insert]
      · next distinct =>
          split
          · simp [insert]
          · next greater => simp [insert, distinct, greater, ih]

theorem insert_comm {key other : String} (distinct : key ≠ other) (value held : Value)
    (fields : Fields) :
    (fields.insert key value).insert other held = (fields.insert other held).insert key value := by
  induction fields with
  | nil => grind [insert]
  | cons field rest ih =>
      obtain ⟨present, _⟩ := field
      grind [insert]

/-- Sets several fields, one after the other. -/
def insertAll (fields : Fields) (writes : List (String × Value)) : Fields :=
  writes.foldl (fun fields write => fields.insert write.1 write.2) fields

@[simp]
theorem insertAll_nil (fields : Fields) : fields.insertAll [] = fields := rfl

@[simp]
theorem insertAll_cons (fields : Fields) (write : String × Value)
    (writes : List (String × Value)) :
    fields.insertAll (write :: writes) = (fields.insert write.1 write.2).insertAll writes := rfl

theorem insertAll_append (fields : Fields) (writes more : List (String × Value)) :
    fields.insertAll (writes ++ more) = (fields.insertAll writes).insertAll more :=
  List.foldl_append

theorem find?_insertAll_of_notMem {key : String} {writes : List (String × Value)}
    (absent : key ∉ writes.map Prod.fst) (fields : Fields) :
    (fields.insertAll writes).find? key = fields.find? key := by
  induction writes generalizing fields with
  | nil => rfl
  | cons write writes ih =>
      obtain ⟨distinct, absent⟩ := List.ne_and_not_mem_of_not_mem_cons absent
      rw [insertAll_cons, ih absent, find?_insert_of_ne distinct]

/-- A field that is set again later might as well not have been set before. -/
theorem insertAll_insert {key : String} {writes : List (String × Value)}
    (again : key ∈ writes.map Prod.fst) (value : Value) (fields : Fields) :
    (fields.insert key value).insertAll writes = fields.insertAll writes := by
  induction writes generalizing fields with
  | nil => cases again
  | cons write writes ih =>
      obtain ⟨other, held⟩ := write
      rw [insertAll_cons, insertAll_cons]
      by_cases same : key = other
      · rw [same, insert_insert_self]
      · have later : key ∈ writes.map Prod.fst := (List.mem_cons.mp again).resolve_left same
        rw [insert_comm same, ih later]

theorem insertAll_insertAll {earlier later : List (String × Value)}
    (again : earlier.map Prod.fst ⊆ later.map Prod.fst) (fields : Fields) :
    (fields.insertAll earlier).insertAll later = fields.insertAll later := by
  induction earlier generalizing fields with
  | nil => rfl
  | cons write earlier ih =>
      obtain ⟨first, others⟩ := List.cons_subset.mp again
      rw [insertAll_cons, ih others, insertAll_insert first]

/-! ## Sorted fields -/

/-- Fields in the order of their keys, each key once. -/
def Sorted (fields : Fields) : Prop := fields.Pairwise fun field later => field.1 < later.1

theorem sorted_insert {fields : Fields} (sorted : fields.Sorted) (key : String) (value : Value) :
    (fields.insert key value).Sorted := by
  induction fields with
  | nil => exact List.pairwise_singleton _ _
  | cons field rest ih =>
      obtain ⟨other, held⟩ := field
      obtain ⟨before, ordered⟩ := List.pairwise_cons.mp sorted
      simp only [insert]
      split
      · next same =>
          subst same
          exact List.pairwise_cons.mpr ⟨before, ordered⟩
      · next distinct =>
          split
          · next less =>
              refine List.pairwise_cons.mpr
                ⟨List.forall_mem_cons.mpr ⟨less, fun field member => ?_⟩, sorted⟩
              exact less.trans (before field member)
          · next notLess =>
              have greater : other < key := lt_of_le_of_ne (not_lt.mp notLess) (Ne.symm distinct)
              refine List.pairwise_cons.mpr ⟨fun field member => ?_, ih ordered⟩
              obtain rfl | earlier := of_mem_insert member
              · exact greater
              · exact before field earlier

theorem sorted_ofList (fields : List (String × Value)) : Sorted (ofList fields) := by
  induction fields using List.reverseRecOn with
  | nil => exact List.Pairwise.nil
  | append_singleton before last ih =>
      rw [ofList, List.foldl_append]
      exact sorted_insert ih _ _

theorem insert_of_forall_lt {fields : Fields} {key : String} (value : Value)
    (last : ∀ field ∈ fields, field.1 < key) :
    fields.insert key value = fields ++ [(key, value)] := by
  induction fields with
  | nil => rfl
  | cons field rest ih =>
      obtain ⟨less, later⟩ := List.forall_mem_cons.mp last
      simp only [insert, if_neg less.ne', if_neg less.not_gt, ih later, List.cons_append]

theorem ofList_of_sorted {fields : Fields} (sorted : fields.Sorted) : ofList fields = fields := by
  induction fields using List.reverseRecOn with
  | nil => rfl
  | append_singleton before last ih =>
      obtain ⟨ordered, -, less⟩ := List.pairwise_append.mp sorted
      have same := ih ordered
      rw [ofList] at same ⊢
      rw [List.foldl_append, same]
      exact insert_of_forall_lt _ fun field member => less field member last (by simp)

/-! ## Sets of fields -/

/-- The fields that `writes` names have its values, and all others are as before. Sorted fields
stay sorted, so that nothing else is among them than what is found under their keys. -/
structure Sets (before after : Fields) (writes : String → Value → Prop) : Prop where
  written : ∀ key value, writes key value → after.find? key = some value
  kept : ∀ key, (∀ value, ¬ writes key value) → after.find? key = before.find? key
  sorted : before.Sorted → after.Sorted

section Sets

variable {before between after : Fields} {writes others : String → Value → Prop}

theorem Sets.congr (sets : before.Sets after writes)
    (same : ∀ key value, others key value ↔ writes key value) : before.Sets after others where
  written key value writing := sets.written key value ((same key value).mp writing)
  kept key unwritten := sets.kept key fun value writing =>
    unwritten value ((same key value).mpr writing)
  sorted := sets.sorted

theorem sets_nothing (nothing : ∀ key value, ¬ writes key value) (fields : Fields) :
    fields.Sets fields writes where
  written key value writing := absurd writing (nothing key value)
  kept _ _ := rfl
  sorted := id

theorem sets_insert (key : String) (value : Value) (fields : Fields) :
    fields.Sets (fields.insert key value) fun other held => other = key ∧ held = value where
  written := by
    rintro other held ⟨rfl, rfl⟩
    exact find?_insert_self _ _ _
  kept other unwritten := find?_insert_of_ne (fun same => unwritten value ⟨same, rfl⟩) _ _
  sorted sorted := sorted_insert sorted key value

/-- What is written last stands. -/
theorem Sets.trans (first : before.Sets between writes) (second : between.Sets after others) :
    before.Sets after fun key value =>
      others key value ∨ writes key value ∧ ∀ later, ¬ others key later where
  written := by
    rintro key value (last | ⟨writing, unwritten⟩)
    · exact second.written key value last
    · rw [second.kept key unwritten, first.written key value writing]
  kept key unwritten := by
    have notLast : ∀ value, ¬ others key value := fun value last => unwritten value (.inl last)
    rw [second.kept key notLast]
    exact first.kept key fun value writing => unwritten value (.inr ⟨writing, notLast⟩)
  sorted := second.sorted ∘ first.sorted

end Sets

/-- The object under a key, which is empty where the key is missing. -/
inductive Child (key : String) (fields : Fields) : Fields → Prop
  | held {child} : fields.find? key = some (.object child) → Child key fields child
  | missing : fields.find? key = none → Child key fields []

theorem Child.congr {key : String} {fields others child : Fields}
    (found : Child key fields child) (same : others.find? key = fields.find? key) :
    Child key others child := by
  cases found with
  | held held => exact .held (same.trans held)
  | missing missing => exact .missing (same.trans missing)

theorem child_insert {key : String} {fields child other : Fields} :
    Child key (fields.insert key (.object child)) other ↔ other = child := by
  constructor
  · intro found
    cases found with
    | held held => exact (Value.object.inj (Option.some.inj
        ((find?_insert_self _ _ _).symm.trans held))).symm
    | missing missing => cases (find?_insert_self _ _ _).symm.trans missing
  · rintro rfl
    exact .held (find?_insert_self _ _ _)

end InferenceBench.Json.Fields
