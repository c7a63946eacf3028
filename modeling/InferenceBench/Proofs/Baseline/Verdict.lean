import InferenceBench.Baseline.Comparison
import InferenceBench.Proofs.Baseline.MetricTable

/-! # When a comparison fails

A comparison goes through the mappings one by one. It fails if the metric of any of them does, and
no later metric can undo that. Its table, however, keeps one metric for each result key, the last
one: where a later mapping has the same result key, a metric that failed is no longer to be seen.
-/

namespace InferenceBench

open Json

/-- The mapping is in the list, and none after it has its result key. -/
def MetricMapping.LastIn (mappings : List MetricMapping) (mapping : MetricMapping) : Prop :=
  ∃ before after, mappings = before ++ mapping :: after ∧
    ∀ later ∈ after, later.resultKey ≠ mapping.resultKey

theorem MetricMapping.LastIn.mem {mappings : List MetricMapping} {mapping : MetricMapping}
    (last : mapping.LastIn mappings) : mapping ∈ mappings := LastWith.mem last

theorem MetricMapping.lastIn_of_nodup {mappings : List MetricMapping}
    (distinct : (mappings.map MetricMapping.resultKey).Nodup) {mapping : MetricMapping}
    (member : mapping ∈ mappings) : mapping.LastIn mappings := by
  obtain ⟨before, after, rfl⟩ := List.append_of_mem member
  refine ⟨before, after, rfl, fun later within same => ?_⟩
  rw [List.map_append, List.map_cons] at distinct
  have absent := (List.nodup_cons.mp distinct.of_append_right).1
  exact absent (same ▸ List.mem_map_of_mem within)

namespace Comparison

/-- The metric of a mapping when two documents are compared. -/
def metricOf (results baseline : Value) (defaultThreshold : Float) (mapping : MetricMapping) :
    MetricComparison :=
  mapping.metric (currentScores results) (baselineScores baseline) defaultThreshold

theorem foldl_add (metric : MetricMapping → MetricComparison) (mappings : List MetricMapping)
    (comparison : Comparison) :
    mappings.foldl (fun comparison mapping => comparison.add mapping (metric mapping)) comparison =
      { comparison with
        metrics := comparison.metrics.insertAll
          (mappings.map fun mapping => (mapping.resultKey, metric mapping))
        failed := comparison.failed ||
          mappings.any fun mapping => (metric mapping).status == .fail
        summary := comparison.summary ++ mappings.map fun mapping => (metric mapping).line } := by
  induction mappings generalizing comparison with
  | nil => simp [MetricTable.insertAll]
  | cons mapping rest ih =>
      rw [List.foldl_cons, ih]
      simp [add, MetricTable.insertAll, Bool.or_assoc]

variable {results baseline : Value} {mappings : List MetricMapping} {defaultThreshold : Float}
  {now : Instant}

theorem status_eq_fail {comparison : Comparison} :
    comparison.status = "FAIL" ↔ comparison.failed = true := by
  unfold status
  cases comparison.failed <;> simp

theorem status_cases (comparison : Comparison) :
    comparison.status = "PASS" ∨ comparison.status = "FAIL" := by
  unfold status
  cases comparison.failed <;> simp

theorem ofDocuments_fails :
    (ofDocuments results baseline mappings defaultThreshold now).status = "FAIL" ↔
      ∃ mapping ∈ mappings,
        (metricOf results baseline defaultThreshold mapping).status = .fail := by
  rw [status_eq_fail]
  simp [ofDocuments, foldl_add, metricOf]

theorem mem_ofDocuments {entry : String × MetricComparison} :
    entry ∈ (ofDocuments results baseline mappings defaultThreshold now).metrics.entries ↔
      ∃ mapping, mapping.LastIn mappings ∧
        entry = (mapping.resultKey, metricOf results baseline defaultThreshold mapping) := by
  simp only [ofDocuments, foldl_add, MetricTable.mem_insertAll, LastWith, List.map_eq_append_iff,
    List.map_eq_cons_iff]
  constructor
  · rintro ⟨_, _, ⟨before, _, rfl, rfl, mapping, after, rfl, rfl, rfl⟩, kept⟩
    exact ⟨mapping, ⟨before, after, rfl, fun later within => kept _ (List.mem_map_of_mem within)⟩,
      rfl⟩
  · rintro ⟨mapping, ⟨before, after, rfl, kept⟩, rfl⟩
    exact ⟨_, _, ⟨before, mapping :: after, rfl, rfl, mapping, after, rfl, rfl, rfl⟩, by simpa⟩

theorem ofDocuments_shows_fail :
    (∃ entry ∈ (ofDocuments results baseline mappings defaultThreshold now).metrics.entries,
      entry.2.status = .fail) ↔
    ∃ mapping, mapping.LastIn mappings ∧
      (metricOf results baseline defaultThreshold mapping).status = .fail := by
  constructor
  · rintro ⟨entry, member, failed⟩
    obtain ⟨mapping, last, rfl⟩ := mem_ofDocuments.mp member
    exact ⟨mapping, last, failed⟩
  · rintro ⟨mapping, last, failed⟩
    exact ⟨_, mem_ofDocuments.mpr ⟨mapping, last, rfl⟩, failed⟩

/-- A comparison fails exactly if the metric of some mapping fails. The table shows it exactly if
some mapping that fails is the last one with its result key, so always if no key comes twice. -/
theorem fails_exactly (results baseline : Value) (mappings : List MetricMapping)
    (defaultThreshold : Float) (now : Instant) :
    ((ofDocuments results baseline mappings defaultThreshold now).status = "FAIL" ↔
      ∃ mapping ∈ mappings,
        (metricOf results baseline defaultThreshold mapping).status = .fail) ∧
    ((∃ entry ∈ (ofDocuments results baseline mappings defaultThreshold now).metrics.entries,
        entry.2.status = .fail) ↔
      ∃ mapping, mapping.LastIn mappings ∧
        (metricOf results baseline defaultThreshold mapping).status = .fail) ∧
    ((mappings.map MetricMapping.resultKey).Nodup →
      ((ofDocuments results baseline mappings defaultThreshold now).status = "FAIL" ↔
        ∃ entry ∈ (ofDocuments results baseline mappings defaultThreshold now).metrics.entries,
          entry.2.status = .fail)) := by
  refine ⟨ofDocuments_fails, ofDocuments_shows_fail, fun distinct => ?_⟩
  rw [ofDocuments_fails, ofDocuments_shows_fail]
  constructor
  · rintro ⟨mapping, member, failed⟩
    exact ⟨mapping, MetricMapping.lastIn_of_nodup distinct member, failed⟩
  · rintro ⟨mapping, last, failed⟩
    exact ⟨mapping, last.mem, failed⟩

/-- A score of 10 where the baseline has 80 under one key and 10 under another. -/
def tenCompared (mappings : List MetricMapping) : Comparison :=
  ofDocuments (.object [("a", .number (.natural 10))])
    (.object [("accuracy", .object [("ifeval",
      .object [("x", .number (.natural 80)), ("y", .number (.natural 10))])])])
    mappings 5 ⟨0, 0⟩

theorem fails_exactly_oneMapping :
    (tenCompared [⟨"a", "x", "A", none⟩]).status = "FAIL" ∧
    ∃ entry ∈ (tenCompared [⟨"a", "x", "A", none⟩]).metrics.entries, entry.2.status = .fail := by
  have fails : (tenCompared [⟨"a", "x", "A", none⟩]).status = "FAIL" := by decide
  exact ⟨fails, ((fails_exactly _ _ _ _ _).2.2 (by decide)).mp fails⟩

theorem failing_metric_replaced :
    (tenCompared [⟨"a", "x", "A", none⟩, ⟨"a", "y", "A", none⟩]).status = "FAIL" ∧
    ¬ ∃ entry ∈ (tenCompared [⟨"a", "x", "A", none⟩, ⟨"a", "y", "A", none⟩]).metrics.entries,
      entry.2.status = .fail := by
  decide

end Comparison

end InferenceBench
