import InferenceBench.Baseline.MetricTable
import Mathlib.Data.List.Induction
import Mathlib.Data.List.Nodup

/-! # What a metric table holds

A table has one metric for each key. Of the metrics that are put in one after the other, those
stay that no later one with the same key replaces: the last ones of their keys.
-/

namespace InferenceBench

/-! ## The last of each key -/

section LastWith

variable {α κ : Type} {keyOf : α → κ} {items : List α} {item last : α}

/-- The item is in the list, and none after it has its key. -/
def LastWith (keyOf : α → κ) (items : List α) (item : α) : Prop :=
  ∃ before after, items = before ++ item :: after ∧ ∀ later ∈ after, keyOf later ≠ keyOf item

theorem LastWith.mem (latest : LastWith keyOf items item) : item ∈ items := by
  obtain ⟨before, after, rfl, -⟩ := latest
  simp

@[simp]
theorem not_lastWith_nil : ¬ LastWith keyOf [] item := by simp [LastWith]

theorem lastWith_append_singleton :
    LastWith keyOf (items ++ [last]) item ↔
      item = last ∨ LastWith keyOf items item ∧ keyOf last ≠ keyOf item := by
  constructor
  · rintro ⟨before, after, same, kept⟩
    induction after using List.reverseRecOn with
    | nil =>
        obtain ⟨-, rfl⟩ := List.append_singleton_inj.mp same
        exact .inl rfl
    | append_singleton middle final _ =>
        rw [← List.cons_append, ← List.append_assoc] at same
        obtain ⟨rfl, rfl⟩ := List.append_singleton_inj.mp same
        refine .inr ⟨⟨before, middle, rfl, ?_⟩, kept last (by simp)⟩
        exact fun later member => kept later (List.mem_append_left _ member)
  · rintro (rfl | ⟨⟨before, after, rfl, kept⟩, other⟩)
    · exact ⟨items, [], rfl, by simp⟩
    · refine ⟨before, after ++ [last], by simp, ?_⟩
      rintro later within
      obtain within | rfl := by simpa using within
      · exact kept later within
      · exact other

theorem exists_lastWith (member : item ∈ items) :
    ∃ latest, LastWith keyOf items latest ∧ keyOf latest = keyOf item := by
  induction items using List.reverseRecOn with
  | nil => cases member
  | append_singleton earlier last ih =>
      simp only [lastWith_append_singleton]
      by_cases same : keyOf last = keyOf item
      · exact ⟨last, .inl rfl, same⟩
      · have earlier : item ∈ earlier := by
          obtain member | rfl := by simpa using member
          · exact member
          · exact absurd rfl same
        obtain ⟨latest, isLast, keyed⟩ := ih earlier
        exact ⟨latest, .inr ⟨isLast, fun again => same (again.trans keyed)⟩, keyed⟩

end LastWith

namespace MetricTable

/-! ## Tables -/

/-- The table after some metrics with their keys were put in. -/
def insertAll (table : MetricTable) (items : List (String × MetricComparison)) : MetricTable :=
  items.foldl (fun table item => table.insert item.1 item.2) table

theorem insertAll_append_singleton (table : MetricTable) (items : List (String × MetricComparison))
    (last : String × MetricComparison) :
    table.insertAll (items ++ [last]) = (table.insertAll items).insert last.1 last.2 :=
  List.foldl_append

theorem keys_insert (table : MetricTable) (key : String) (metric : MetricComparison) :
    (table.insert key metric).keys =
      if key ∈ table.keys then table.keys else table.keys ++ [key] := by
  obtain ⟨entries⟩ := table
  simp only [insert, keys]
  induction entries with
  | nil => simp [insertEntry]
  | cons entry rest ih =>
      obtain ⟨other, held⟩ := entry
      simp only [insertEntry]
      split
      · next same => simp [same]
      · next distinct =>
          by_cases present : key ∈ rest.map Prod.fst
          · simp [ih, present]
          · simp [ih, present, Ne.symm distinct]

theorem nodup_keys_insert {table : MetricTable} (distinct : table.keys.Nodup) (key : String)
    (metric : MetricComparison) : (table.insert key metric).keys.Nodup := by
  rw [keys_insert]
  split
  · exact distinct
  · next absent =>
      rw [← List.concat_eq_append]
      exact distinct.concat absent

theorem mem_insert {table : MetricTable} (distinct : table.keys.Nodup) {key : String}
    {metric : MetricComparison} {entry : String × MetricComparison} :
    entry ∈ (table.insert key metric).entries ↔
      entry = (key, metric) ∨ entry ∈ table.entries ∧ entry.1 ≠ key := by
  obtain ⟨entries⟩ := table
  simp only [insert, keys] at *
  induction entries with
  | nil => simp [insertEntry]
  | cons first rest ih =>
      obtain ⟨other, held⟩ := first
      simp only [List.map_cons, List.nodup_cons] at distinct
      simp only [insertEntry]
      split
      · next same =>
          subst same
          have others : ∀ entry ∈ rest, entry.1 ≠ other := fun entry member same =>
            distinct.1 (same ▸ List.mem_map_of_mem member)
          simp only [List.mem_cons]
          constructor
          · rintro (rfl | member)
            · exact .inl rfl
            · exact .inr ⟨.inr member, others entry member⟩
          · rintro (rfl | ⟨rfl | member, different⟩)
            · exact .inl rfl
            · exact absurd rfl different
            · exact .inr member
      · next different =>
          simp only [List.mem_cons, ih distinct.2]
          constructor
          · rintro (rfl | rfl | ⟨member, other⟩)
            · exact .inr ⟨.inl rfl, different⟩
            · exact .inl rfl
            · exact .inr ⟨.inr member, other⟩
          · rintro (rfl | ⟨rfl | member, other⟩)
            · exact .inr (.inl rfl)
            · exact .inl rfl
            · exact .inr (.inr ⟨member, other⟩)

theorem nodup_keys_insertAll (items : List (String × MetricComparison)) :
    (empty.insertAll items).keys.Nodup := by
  induction items using List.reverseRecOn with
  | nil => exact List.nodup_nil
  | append_singleton before last ih =>
      rw [insertAll_append_singleton]
      exact nodup_keys_insert ih _ _

theorem mem_insertAll {items : List (String × MetricComparison)}
    {entry : String × MetricComparison} :
    entry ∈ (empty.insertAll items).entries ↔ LastWith Prod.fst items entry := by
  induction items using List.reverseRecOn with
  | nil => simp [insertAll, empty]
  | append_singleton earlier last ih =>
      rw [insertAll_append_singleton, lastWith_append_singleton, ← ih, ne_comm]
      exact mem_insert (nodup_keys_insertAll earlier)

theorem insertEntry_of_absent {entries : List (String × MetricComparison)} {key : String}
    (absent : key ∉ entries.map Prod.fst) (metric : MetricComparison) :
    insertEntry key metric entries = entries ++ [(key, metric)] := by
  induction entries with
  | nil => rfl
  | cons entry rest ih =>
      obtain ⟨other, held⟩ := entry
      simp only [List.map_cons, List.mem_cons, not_or] at absent
      rw [insertEntry, if_neg (Ne.symm absent.1), ih absent.2, List.cons_append]

theorem entries_insertAll (table : MetricTable) (items : List (String × MetricComparison))
    (distinct : (table.keys ++ items.map Prod.fst).Nodup) :
    (table.insertAll items).entries = table.entries ++ items := by
  induction items generalizing table with
  | nil => simp [insertAll]
  | cons item items ih =>
      obtain ⟨key, metric⟩ := item
      rw [List.map_cons, List.append_cons] at distinct
      have absent : key ∉ table.keys := by
        have fresh := distinct.of_append_left
        rw [← List.concat_eq_append, List.nodup_concat] at fresh
        exact fresh.1
      have keys : (table.insert key metric).keys = table.keys ++ [key] := by
        rw [keys_insert, if_neg absent]
      have rest : ((table.insert key metric).insertAll items).entries =
          (table.insert key metric).entries ++ items := ih _ (by rwa [keys])
      have first : (table.insert key metric).entries = table.entries ++ [(key, metric)] :=
        insertEntry_of_absent absent metric
      rw [insertAll, List.foldl_cons, ← insertAll, rest, first, List.append_assoc]
      rfl

theorem get?_eq_some {table : MetricTable} (distinct : table.keys.Nodup) {key : String}
    {metric : MetricComparison} :
    table.get? key = some metric ↔ (key, metric) ∈ table.entries := by
  obtain ⟨entries⟩ := table
  simp only [get?, keys] at *
  induction entries with
  | nil => simp
  | cons entry rest ih =>
      obtain ⟨other, held⟩ := entry
      obtain ⟨absent, distinct⟩ := List.nodup_cons.mp distinct
      by_cases same : other = key
      · subst same
        have gone : (other, metric) ∉ rest := by
          intro member
          exact absent (List.mem_map.mpr ⟨_, member, rfl⟩)
        simp [gone, eq_comm]
      · simp [same, Ne.symm same, ih distinct]

theorem get?_perm {table other : MetricTable} (same : other.entries.Perm table.entries)
    (distinct : table.keys.Nodup) (key : String) : other.get? key = table.get? key := by
  have keys : other.keys.Nodup := (same.map Prod.fst).nodup_iff.mpr distinct
  apply Option.ext
  intro metric
  rw [get?_eq_some keys, get?_eq_some distinct, same.mem_iff]

end MetricTable

end InferenceBench
