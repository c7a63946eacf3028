import InferenceBench.Json.Record
import InferenceBench.Proofs.Json.Written

/-! # Records read back

A record that is written as an object with all of its fields is read field by field: each slot is
filled with the tree of the field of its name. What a field holds is then up to the reader of that
field alone.
-/

namespace InferenceBench.Json

namespace Slots

/-- The slots of fields that are all there. -/
def ofFields (fields : List (String × Tree)) : Slots :=
  fields.map fun (name, tree) => (name, some tree)

theorem fill?_append {key : String} {before : Slots} (absent : key ∉ before.map Prod.fst)
    (tree : Tree) (rest : Slots) :
    fill? key tree (before ++ rest) = (fill? key tree rest).map (before ++ ·) := by
  induction before with
  | nil => simp
  | cons slot before ih =>
      obtain ⟨name, held⟩ := slot
      simp only [List.map_cons, List.mem_cons, not_or] at absent
      obtain ⟨other, absent⟩ := absent
      rw [List.cons_append, fill?, if_neg (Ne.symm other), ih absent, Option.map_map]
      rfl

/-- Fields in their declared order fill one empty slot after the other. -/
theorem fillAll?_ofNames (before fields : List (String × Tree))
    (distinct : ((before ++ fields).map Prod.fst).Nodup) :
    (ofFields before ++ ofNames (fields.map Prod.fst)).fillAll?
        (fields.map fun (name, tree) => field name tree) = some (ofFields (before ++ fields)) := by
  induction fields generalizing before with
  | nil => simp [ofNames, fillAll?]
  | cons first fields ih =>
      obtain ⟨name, tree⟩ := first
      have absent : name ∉ (ofFields before).map Prod.fst := by
        intro member
        rw [List.map_append, List.map_cons] at distinct
        refine List.disjoint_of_nodup_append distinct ?_ List.mem_cons_self
        simpa [ofFields] using member
      have filled : fill? name tree (ofFields before ++ ofNames (name :: fields.map Prod.fst)) =
          some (ofFields (before ++ [(name, tree)]) ++ ofNames (fields.map Prod.fst)) := by
        rw [fill?_append absent]
        simp [ofNames, ofFields, fill?]
      have later := ih (before ++ [(name, tree)]) (by simpa using distinct)
      rw [List.append_assoc, List.singleton_append] at later
      simp only [List.map_cons, fillAll?, field, pieceText?_chars, Option.bind_eq_bind,
        Option.bind_some, String.ofList_toList]
      rw [filled, Option.bind_some]
      exact later

end Slots

theorem slots?_object (fields : List (String × Tree)) (distinct : (fields.map Prod.fst).Nodup) :
    (Tree.object (fields.map fun (name, tree) => field name tree)).slots?
      (fields.map Prod.fst) = some (Slots.ofFields fields) :=
  Slots.fillAll?_ofNames [] fields distinct

theorem Tree.Writable.record (fields : List (String × Tree))
    (all : ∀ held ∈ fields, held.2.Writable) :
    (Tree.object (fields.map fun (name, tree) => field name tree)).Writable := by
  apply Tree.Writable.object
  · intro written member
    obtain ⟨held, -, rfl⟩ := List.mem_map.mp member
    exact ⟨held.1.toList, rfl⟩
  · intro written member
    obtain ⟨held, within, rfl⟩ := List.mem_map.mp member
    exact all held within

theorem writable_ofNat {n : Nat} (below : n < 2 ^ 64) : (Tree.ofNat n).Writable :=
  have means : (Tree.ofNat n).Means 0 (.number (.natural n)) := means_ofNat below
  means.writable

/-! ## What the fields hold -/

@[simp]
theorem string?_ofString (text : String) : (Tree.ofString text).string? = some text := by
  simp [Tree.ofString, Tree.ofChars, Tree.string?, pieceText?_chars]

theorem naturalBelow?_ofNat {n bound : Nat} (below : n < bound) (short : bound ≤ 2 ^ 64) :
    (Tree.ofNat n).naturalBelow? bound = some n := by
  obtain ⟨text, same, -, read⟩ :=
    (Number.Canonical.natural (Nat.lt_of_lt_of_le below short)).readBack
  have same : Tree.ofNat n = .number text := same
  simp [same, Tree.naturalBelow?, Tree.number?, read, below]

theorem list?_array {α : Type} {read : Tree → Option α} {write : α → Tree} (items : List α)
    (readBack : ∀ item ∈ items, read (write item) = some item) :
    (Tree.array (items.map write)).list? read = some items := by
  rw [Tree.list?]
  induction items with
  | nil => rfl
  | cons item items ih =>
      obtain ⟨first, others⟩ := List.forall_mem_cons.mp readBack
      simp [first, ih others]

end InferenceBench.Json
