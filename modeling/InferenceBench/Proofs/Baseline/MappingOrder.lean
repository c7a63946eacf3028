import InferenceBench.Proofs.Baseline.Verdict

/-! # The order of the mappings

Where no result key comes twice, a comparison has one line and one entry for each mapping, in the
order of the mappings. The two are made from the numbers that the mapping finds in the documents
and from nothing else, so that they move with the mapping and stay as they are when other parts of
the documents change.
-/

namespace InferenceBench

open Json

/-- A mapping finds the same numbers in two pairs of documents, where a score that is missing from
the results counts as zero. -/
structure MetricMapping.FindsSame (mapping : MetricMapping) (results baseline : Value)
    (others otherBaseline : Value) : Prop where
  current : (score? (currentScores others) mapping.resultKey).getD 0 =
    (score? (currentScores results) mapping.resultKey).getD 0
  held : score? (baselineScores otherBaseline) mapping.baselineKey =
    score? (baselineScores baseline) mapping.baselineKey

namespace Comparison

variable {results baseline others otherBaseline : Value} {mappings permuted : List MetricMapping}
  {defaultThreshold : Float} {now : Instant}

theorem metricOf_congr {mapping : MetricMapping}
    (same : mapping.FindsSame results baseline others otherBaseline) :
    metricOf others otherBaseline defaultThreshold mapping =
      metricOf results baseline defaultThreshold mapping := by
  simp only [metricOf, MetricMapping.metric, same.current, same.held]

theorem failed_ofDocuments :
    (ofDocuments results baseline mappings defaultThreshold now).failed =
      mappings.any fun mapping =>
        (metricOf results baseline defaultThreshold mapping).status == .fail := by
  simp [ofDocuments, foldl_add, metricOf]

theorem summary_ofDocuments :
    (ofDocuments results baseline mappings defaultThreshold now).summary =
      mappings.map fun mapping => (metricOf results baseline defaultThreshold mapping).line := by
  simp [ofDocuments, foldl_add, metricOf]

theorem entries_ofDocuments (distinct : (mappings.map MetricMapping.resultKey).Nodup) :
    (ofDocuments results baseline mappings defaultThreshold now).metrics.entries =
      mappings.map fun mapping =>
        (mapping.resultKey, metricOf results baseline defaultThreshold mapping) := by
  simp only [ofDocuments, foldl_add]
  rw [MetricTable.entries_insertAll]
  · rfl
  · simpa [MetricTable.keys, MetricTable.empty, Function.comp_def] using distinct

theorem keys_ofDocuments (distinct : (mappings.map MetricMapping.resultKey).Nodup) :
    (ofDocuments results baseline mappings defaultThreshold now).metrics.keys =
      mappings.map MetricMapping.resultKey := by
  rw [MetricTable.keys, entries_ofDocuments distinct, List.map_map]
  rfl

theorem getElem?_summary (i : Nat) :
    (ofDocuments results baseline mappings defaultThreshold now).summary[i]? =
      mappings[i]?.map fun mapping =>
        (metricOf results baseline defaultThreshold mapping).line := by
  rw [summary_ofDocuments, List.getElem?_map]

theorem getElem?_entries (distinct : (mappings.map MetricMapping.resultKey).Nodup) (i : Nat) :
    (ofDocuments results baseline mappings defaultThreshold now).metrics.entries[i]? =
      mappings[i]?.map fun mapping =>
        (mapping.resultKey, metricOf results baseline defaultThreshold mapping) := by
  rw [entries_ofDocuments distinct, List.getElem?_map]

theorem get?_ofDocuments (distinct : (mappings.map MetricMapping.resultKey).Nodup)
    {mapping : MetricMapping} (member : mapping ∈ mappings) :
    (ofDocuments results baseline mappings defaultThreshold now).metrics.get? mapping.resultKey =
      some (metricOf results baseline defaultThreshold mapping) := by
  rw [MetricTable.get?_eq_some (by rwa [keys_ofDocuments distinct]), entries_ofDocuments distinct]
  exact List.mem_map_of_mem member

theorem status_perm (same : permuted.Perm mappings) :
    (ofDocuments results baseline permuted defaultThreshold now).status =
      (ofDocuments results baseline mappings defaultThreshold now).status := by
  rw [status, status, failed_ofDocuments, failed_ofDocuments, same.any_eq]

theorem get?_perm (same : permuted.Perm mappings)
    (distinct : (mappings.map MetricMapping.resultKey).Nodup) (key : String) :
    (ofDocuments results baseline permuted defaultThreshold now).metrics.get? key =
      (ofDocuments results baseline mappings defaultThreshold now).metrics.get? key := by
  have moved : (permuted.map MetricMapping.resultKey).Nodup :=
    (same.map MetricMapping.resultKey).nodup_iff.mpr distinct
  apply MetricTable.get?_perm
  · rw [entries_ofDocuments moved, entries_ofDocuments distinct]
    exact same.map _
  · rwa [keys_ofDocuments distinct]

/-- In whatever order the mappings are listed, the comparison has the same status and the same
metric for each key; where a mapping moves, its line and its entry move along. They stay the same
in a comparison of any other documents in which the mapping finds the same numbers, whatever other
mappings there are. -/
theorem mappings_are_independent (results baseline : Value) (mappings : List MetricMapping)
    (defaultThreshold : Float) (now : Instant)
    (distinct : (mappings.map MetricMapping.resultKey).Nodup) :
    let comparison := ofDocuments results baseline mappings defaultThreshold now
    (comparison.metrics.keys = mappings.map MetricMapping.resultKey ∧
      comparison.summary.length = mappings.length) ∧
    (∀ permuted : List MetricMapping, permuted.Perm mappings →
      let moved := ofDocuments results baseline permuted defaultThreshold now
      moved.status = comparison.status ∧
      (∀ key, moved.metrics.get? key = comparison.metrics.get? key) ∧
      ∀ i j : Nat, permuted[j]? = mappings[i]? →
        moved.summary[j]? = comparison.summary[i]? ∧
        moved.metrics.entries[j]? = comparison.metrics.entries[i]?) ∧
    ∀ (others otherBaseline : Value) (otherMappings : List MetricMapping) (later : Instant),
      (otherMappings.map MetricMapping.resultKey).Nodup →
      let changed := ofDocuments others otherBaseline otherMappings defaultThreshold later
      ∀ (i j : Nat) (mapping : MetricMapping), mappings[i]? = some mapping →
        otherMappings[j]? = some mapping →
        mapping.FindsSame results baseline others otherBaseline →
        changed.summary[j]? = comparison.summary[i]? ∧
        changed.metrics.entries[j]? = comparison.metrics.entries[i]? ∧
        changed.metrics.get? mapping.resultKey = comparison.metrics.get? mapping.resultKey := by
  refine ⟨⟨keys_ofDocuments distinct, by rw [summary_ofDocuments, List.length_map]⟩, ?_, ?_⟩
  · intro permuted same
    have movedDistinct : (permuted.map MetricMapping.resultKey).Nodup :=
      (same.map MetricMapping.resultKey).nodup_iff.mpr distinct
    refine ⟨status_perm same, get?_perm same distinct, ?_⟩
    intro i j there
    rw [getElem?_summary, getElem?_summary, getElem?_entries movedDistinct,
      getElem?_entries distinct, there]
    exact ⟨rfl, rfl⟩
  · intro others otherBaseline otherMappings later otherDistinct changed i j mapping here there same
    refine ⟨?_, ?_, ?_⟩
    · rw [getElem?_summary, getElem?_summary, here, there, Option.map_some, Option.map_some,
        metricOf_congr same]
    · rw [getElem?_entries otherDistinct, getElem?_entries distinct, here, there, Option.map_some,
        Option.map_some, metricOf_congr same]
    · rw [get?_ofDocuments otherDistinct (List.mem_of_getElem? there),
        get?_ofDocuments distinct (List.mem_of_getElem? here), metricOf_congr same]

/-- Two scores, one of which the baseline has as well, and a scope in which only that one is. -/
def twoScores : Value :=
  .object [("a", .number (.natural 10)), ("b", .number (.natural 20))]

def scopedScore : Value :=
  .object [("accuracy", .object [("ifeval", .object [("a", .number (.natural 10))])]),
    ("model", .text "m")]

theorem mappings_are_independent_swapped :
    let a : MetricMapping := ⟨"a", "a", "A", none⟩
    let b : MetricMapping := ⟨"b", "b", "B", some 1⟩
    let comparison := ofDocuments twoScores scopedScore [a, b] 5 ⟨0, 0⟩
    let moved := ofDocuments twoScores scopedScore [b, a] 5 ⟨0, 0⟩
    let changed := ofDocuments scopedScore scopedScore [a] 5 ⟨60, 0⟩
    ([a, b].map MetricMapping.resultKey).Nodup ∧ a.FindsSame twoScores scopedScore scopedScore
      scopedScore ∧ moved.summary[1]? = comparison.summary[0]? ∧
      moved.metrics.entries[0]? = comparison.metrics.entries[1]? ∧
      changed.metrics.get? "a" = comparison.metrics.get? "a" := by
  intro a b comparison moved changed
  have distinct : ([a, b].map MetricMapping.resultKey).Nodup := by decide
  have same : a.FindsSame twoScores scopedScore scopedScore scopedScore :=
    ⟨by decide +kernel, by decide +kernel⟩
  obtain ⟨-, order, others⟩ :=
    mappings_are_independent twoScores scopedScore [a, b] 5 ⟨0, 0⟩ distinct
  obtain ⟨-, -, rows⟩ := order [b, a] (.swap a b [])
  obtain ⟨-, -, looked⟩ :=
    others scopedScore scopedScore [a] ⟨60, 0⟩ (by decide) 0 0 a rfl rfl same
  exact ⟨distinct, same, (rows 0 1 rfl).1, (rows 1 0 rfl).2, looked⟩

end Comparison

end InferenceBench
