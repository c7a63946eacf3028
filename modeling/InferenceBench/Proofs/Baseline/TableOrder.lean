import InferenceBench.Proofs.Baseline.MappingOrder
import InferenceBench.Proofs.Json.Record
import Mathlib.Data.Finset.Card

/-! # Metric tables as ordered maps

Whatever is put into an empty table, one metric after the other, the table is a map from keys to
metrics that remembers in which order the keys came first. Each step adds a key that is new at the
end, and keeps the place of any other. The object that is written lists the keys in this order, and
each of them once, so no metric is lost when it is read.
-/

namespace InferenceBench

open Json

/-! ## Written metrics -/

theorem writable_ofDouble (x : Float) : (Tree.ofDouble x).Writable :=
  have means : (Tree.ofDouble x).Means 0 (.ofDouble x) := means_ofDouble x
  means.writable

theorem writable_doubleOrNull (score : Option Float) : (doubleOrNull score).Writable := by
  cases score with
  | none => exact .null
  | some x => exact writable_ofDouble x

theorem MetricComparison.writable_tree (metric : MetricComparison) : metric.tree.Writable := by
  have start : ∀ held ∈ [("name", Tree.ofString metric.name), ("current", .ofDouble metric.current),
      ("baseline", doubleOrNull metric.baseline), ("delta", doubleOrNull metric.delta)],
      held.2.Writable := by
    simp [Tree.ofString, Tree.Writable.text, writable_ofDouble, writable_doubleOrNull]
  have finish : ∀ held ∈ [("status", Tree.ofString metric.status.name),
      ("message", .ofString metric.message)], held.2.Writable := by
    simp [Tree.ofString, Tree.Writable.text]
  cases threshold : metric.threshold with
  | none =>
      have written := Tree.Writable.record _ (List.forall_mem_append.mpr ⟨start, finish⟩)
      simpa [tree, threshold] using written
  | some x =>
      have middle : ∀ held ∈ [("threshold", Tree.ofDouble x)], held.2.Writable := by
        simp [writable_ofDouble]
      have written := Tree.Writable.record _ (List.forall_mem_append.mpr
        ⟨List.forall_mem_append.mpr ⟨start, middle⟩, finish⟩)
      simpa [tree, threshold] using written

namespace MetricTable

theorem writable_tree (table : MetricTable) : table.tree.Writable := by
  have each : ∀ held ∈ table.entries.map fun entry => (entry.1, entry.2.tree),
      held.2.Writable := by
    intro held member
    obtain ⟨entry, -, rfl⟩ := List.mem_map.mp member
    exact entry.2.writable_tree
  have written := Tree.Writable.record _ each
  rwa [List.map_map] at written

/-! ## The order of the keys -/

/-- A table that holds what was put in. -/
structure Holds (table : MetricTable) (items : List (String × MetricComparison)) : Prop where
  distinct : table.keys.Nodup
  present : ∀ key, key ∈ table.keys ↔ key ∈ items.map Prod.fst
  /-- A key stands before another one if it came first before the other one did. -/
  ordered : table.keys.Pairwise fun key later =>
    (items.map Prod.fst).idxOf key < (items.map Prod.fst).idxOf later
  size : table.size = (items.map Prod.fst).toFinset.card
  found : ∀ key metric, table.get? key = some metric ↔ LastWith Prod.fst items (key, metric)
  indexed : ∀ key metric, table.get key = .ok metric ↔ LastWith Prod.fst items (key, metric)
  missing : ∀ key, key ∉ items.map Prod.fst →
    table.get? key = none ∧ table.get key = .error (missingMessage key)
  /-- The object that is read from the text of the table has the keys and their metrics. -/
  written : ∃ entries : List (String × MetricComparison), entries.map Prod.fst = table.keys ∧
    (∀ entry ∈ entries, LastWith Prod.fst items entry) ∧
    Tree.ofText? table.tree.compact =
      some (.object (entries.map fun entry => field entry.1 entry.2.tree)) ∧
    Tree.ofText? table.tree.pretty =
      some (.object (entries.map fun entry => field entry.1 entry.2.tree))

theorem mem_keys_insert {table : MetricTable} {key other : String} {metric : MetricComparison} :
    other ∈ (table.insert key metric).keys ↔ other ∈ table.keys ∨ other = key := by
  rw [keys_insert]
  split
  · next present => exact ⟨.inl, fun either => either.elim id (· ▸ present)⟩
  · simp

theorem mem_keys_insertAll {items : List (String × MetricComparison)} {key : String} :
    key ∈ (empty.insertAll items).keys ↔ key ∈ items.map Prod.fst := by
  induction items using List.reverseRecOn with
  | nil => simp [insertAll, empty, keys]
  | append_singleton before last ih =>
      rw [insertAll_append_singleton, List.map_append, List.mem_append, ← ih]
      exact mem_keys_insert.trans (or_congr_right List.mem_singleton.symm)

/-- A key that is new comes after all others, and one that is not keeps its place. -/
theorem ordered_insertAll (items : List (String × MetricComparison)) :
    (empty.insertAll items).keys.Pairwise fun key later =>
      (items.map Prod.fst).idxOf key < (items.map Prod.fst).idxOf later := by
  induction items using List.reverseRecOn with
  | nil => exact List.Pairwise.nil
  | append_singleton before last ih =>
      have kept : ∀ key ∈ (empty.insertAll before).keys,
          ((before ++ [last]).map Prod.fst).idxOf key = (before.map Prod.fst).idxOf key := by
        intro key member
        rw [List.map_append, List.idxOf_append_of_mem (mem_keys_insertAll.mp member)]
      have earlier : (empty.insertAll before).keys.Pairwise fun key later =>
          ((before ++ [last]).map Prod.fst).idxOf key <
            ((before ++ [last]).map Prod.fst).idxOf later := by
        refine List.Pairwise.imp_of_mem (fun first second less => ?_) ih
        rwa [kept _ first, kept _ second]
      rw [insertAll_append_singleton, keys_insert]
      split
      · exact earlier
      · next absent =>
          refine List.pairwise_append.mpr ⟨earlier, List.pairwise_singleton _ _, ?_⟩
          intro key member later within
          obtain rfl := List.mem_singleton.mp within
          have fresh : last.1 ∉ before.map Prod.fst := mt mem_keys_insertAll.mpr absent
          rw [kept key member, List.map_append, List.idxOf_append_of_notMem fresh]
          exact Nat.lt_add_right _ (List.idxOf_lt_length_of_mem (mem_keys_insertAll.mp member))

/-! ## Lookups -/

theorem get_eq_ok {table : MetricTable} {key : String} {metric : MetricComparison} :
    table.get key = .ok metric ↔ table.get? key = some metric := by
  unfold get
  cases table.get? key <;> simp

theorem get?_insertAll {items : List (String × MetricComparison)} {key : String}
    {metric : MetricComparison} :
    (empty.insertAll items).get? key = some metric ↔ LastWith Prod.fst items (key, metric) := by
  rw [get?_eq_some (nodup_keys_insertAll items), mem_insertAll]

theorem get?_insertAll_of_notMem {items : List (String × MetricComparison)} {key : String}
    (absent : key ∉ items.map Prod.fst) : (empty.insertAll items).get? key = none := by
  refine Option.eq_none_iff_forall_ne_some.mpr fun metric found => ?_
  exact absent (List.mem_map.mpr ⟨_, (get?_insertAll.mp found).mem, rfl⟩)

theorem size_insertAll (items : List (String × MetricComparison)) :
    (empty.insertAll items).size = (items.map Prod.fst).toFinset.card := by
  have same : (empty.insertAll items).keys.toFinset = (items.map Prod.fst).toFinset := by
    ext key
    rw [List.mem_toFinset, List.mem_toFinset, mem_keys_insertAll]
  rw [← same, List.toFinset_card_of_nodup (nodup_keys_insertAll items), keys, List.length_map, size]

theorem holds_insertAll (items : List (String × MetricComparison)) :
    (empty.insertAll items).Holds items where
  distinct := nodup_keys_insertAll items
  present _ := mem_keys_insertAll
  ordered := ordered_insertAll items
  size := size_insertAll items
  found _ _ := get?_insertAll
  indexed _ _ := get_eq_ok.trans get?_insertAll
  missing key absent := by
    have none := get?_insertAll_of_notMem absent
    exact ⟨none, by rw [get, none]⟩
  written := by
    have writable := (empty.insertAll items).writable_tree
    exact ⟨(empty.insertAll items).entries, rfl, fun _ => mem_insertAll.mp,
      ofText?_compact writable, ofText?_pretty writable⟩

example (first second third : MetricComparison) :
    (empty.insertAll [("b", first), ("a", second), ("b", third)]).entries =
      [("b", third), ("a", second)] := rfl

end MetricTable

/-- A table into which metrics are put one after the other is a map that keeps its keys in the order
in which they came first, each with the last metric that was put in for it. The table of a
comparison is one of these, with the metrics of the mappings by their result keys, while the
summary has a line for each mapping. -/
theorem tables_are_ordered_maps :
    (∀ items : List (String × MetricComparison), (MetricTable.empty.insertAll items).Holds items) ∧
    ∀ (results baseline : Value) (mappings : List MetricMapping) (defaultThreshold : Float)
      (now : Instant),
      let comparison := Comparison.ofDocuments results baseline mappings defaultThreshold now
      let metric := Comparison.metricOf results baseline defaultThreshold
      comparison.metrics.Holds (mappings.map fun mapping => (mapping.resultKey, metric mapping)) ∧
      (∀ key held, comparison.metrics.get? key = some held ↔
        ∃ mapping, mapping.LastIn mappings ∧ mapping.resultKey = key ∧ metric mapping = held) ∧
      comparison.summary = mappings.map fun mapping => (metric mapping).line := by
  refine ⟨MetricTable.holds_insertAll, ?_⟩
  intro results baseline mappings defaultThreshold now comparison metric
  have holds : comparison.metrics.Holds
      (mappings.map fun mapping => (mapping.resultKey, metric mapping)) := by
    simp only [comparison, Comparison.ofDocuments, Comparison.foldl_add]
    exact MetricTable.holds_insertAll _
  refine ⟨holds, fun key held => ?_, Comparison.summary_ofDocuments⟩
  rw [MetricTable.get?_eq_some holds.distinct, Comparison.mem_ofDocuments]
  refine exists_congr fun mapping => and_congr_right fun _ => ?_
  rw [Prod.mk.injEq, eq_comm (a := key), eq_comm (a := held)]

end InferenceBench
