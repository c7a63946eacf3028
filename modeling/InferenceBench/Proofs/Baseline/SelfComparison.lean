import InferenceBench.Proofs.Baseline.Verdict
import InferenceBench.Proofs.Baseline.Writing
import InferenceBench.Proofs.Json.Range

/-! # A run against its own baseline

Once a baseline was updated with a run, a comparison of the run with it finds every score where
the update has put it, and as the same double: a score that is missing, or that is no number, is
zero in both. So all changes are zero, and with thresholds that are not negative every metric
passes.
-/

namespace InferenceBench

open Json

/-! ## What an update leaves under `accuracy` -/

theorem baselineScores_updateBaseline {baseline results : Value} {mappings : List MetricMapping}
    {runId : Option String} {now : Instant}
    (succeeds : (updateBaseline baseline results mappings runId now).2 = none) :
    ∃ scores scores' : Fields,
      baselineScores (updateBaseline baseline results mappings runId now).1 = .object scores' ∧
      scores.Sets scores' (WritesScore (currentScores results) mappings) := by
  obtain ⟨root, root', -, updated, writes⟩ := writes_of_succeeds succeeds
  obtain ⟨-, -, scored, accuracy, -, rooted⟩ := writes
  next scores scores' _ =>
  refine ⟨scores, scores', ?_, scored⟩
  have inner := accuracy.written "ifeval" _ ⟨rfl, rfl⟩
  have outer := rooted.written "accuracy" _ .accuracy
  simp [baselineScores, updated, Value.field?, outer, inner]

/-- Where all mappings of a baseline key agree, it does not matter which of them is the last. -/
theorem writesScore_of_agree {current : Value} {mappings : List MetricMapping}
    {mapping : MetricMapping} (member : mapping ∈ mappings)
    (unreserved : mapping.baselineKey ≠ "num_samples")
    (agree : ∀ other ∈ mappings, other.baselineKey = mapping.baselineKey →
      other.resultKey = mapping.resultKey) :
    WritesScore current mappings mapping.baselineKey
      (numberOrZero (current.field? mapping.resultKey)) := by
  obtain ⟨latest, isLast, same⟩ := exists_lastWith member
  rw [← agree latest isLast.mem same, ← same]
  exact .mapped (same ▸ unreserved) (.last isLast (scoreOf_iff.mpr rfl))

/-! ## The comparison -/

theorem asDouble?_numberOrZero (value : Option Value) :
    (numberOrZero value).asDouble? = some ((value.bind Value.asDouble?).getD 0) := by
  cases value with
  | none => rfl
  | some value => cases value <;> rfl

theorem isFinite_score {scores : Value} (range : scores.InRange) (key : String) :
    ((score? scores key).getD 0).isFinite = true := by
  cases found : score? scores key with
  | none => rfl
  | some x =>
      obtain ⟨value, held, double⟩ := Option.bind_eq_some_iff.mp found
      exact (range.field? held).isFinite_asDouble double

theorem inRange_currentScores {results : Value} (range : results.InRange) :
    (currentScores results).InRange := by
  simp only [currentScores]
  split
  · next accuracy held =>
      cases below : accuracy.field? "ifeval" with
      | none => exact .null
      | some scores => exact (range.field? held).field? below
  · exact range

theorem classify_zero {threshold : Float} (nonneg : 0 ≤ threshold) :
    MetricStatus.classify 0 threshold = .pass := by
  rw [MetricStatus.classify, if_neg (Numeral.not_zero_lt_neg_of_nonneg nonneg),
    if_neg (Numeral.not_lt_zero_of_nonneg nonneg)]

/-- A metric that equals its baseline. -/
structure MetricComparison.Unchanged (metric : MetricComparison) : Prop where
  passes : metric.status = .pass
  same : metric.baseline = some metric.current
  unmoved : metric.delta = some 0

theorem MetricMapping.unchanged_compared {mapping : MetricMapping} {defaultThreshold score : Float}
    (finite : score.isFinite = true) (nonneg : 0 ≤ mapping.threshold.getD defaultThreshold) :
    (mapping.compared defaultThreshold score score).Unchanged where
  passes := by
    simp only [compared, Numeral.sub_self_of_isFinite finite]
    exact classify_zero nonneg
  same := rfl
  unmoved := by simp only [compared, Numeral.sub_self_of_isFinite finite]

/-- A run passes the comparison with the baseline that it has updated: each mapping has its entry in
the table, its metric equals its baseline, and so does every metric of the table. -/
theorem updated_baseline_passes (results baseline : Value) (mappings : List MetricMapping)
    (defaultThreshold : Float) (runId : Option String) (updatedAt comparedAt : Instant)
    (range : results.InRange)
    (unreserved : ∀ mapping ∈ mappings, mapping.baselineKey ≠ "num_samples")
    (agree : ∀ mapping ∈ mappings, ∀ other ∈ mappings,
      other.baselineKey = mapping.baselineKey → other.resultKey = mapping.resultKey)
    (nonneg : ∀ mapping ∈ mappings, 0 ≤ mapping.threshold.getD defaultThreshold)
    (succeeds : (updateBaseline baseline results mappings runId updatedAt).2 = none) :
    let comparison := Comparison.ofDocuments results
      (updateBaseline baseline results mappings runId updatedAt).1 mappings defaultThreshold
      comparedAt
    comparison.status = "PASS" ∧
    (∀ mapping ∈ mappings, (Comparison.metricOf results
        (updateBaseline baseline results mappings runId updatedAt).1 defaultThreshold
        mapping).Unchanged ∧
      ∃ entry ∈ comparison.metrics.entries, entry.1 = mapping.resultKey) ∧
    ∀ entry ∈ comparison.metrics.entries, entry.2.Unchanged := by
  intro comparison
  have unchanged : ∀ mapping ∈ mappings, (Comparison.metricOf results
      (updateBaseline baseline results mappings runId updatedAt).1 defaultThreshold
      mapping).Unchanged := by
    intro mapping member
    obtain ⟨scores, scores', held, sets⟩ := baselineScores_updateBaseline succeeds
    have written : score? (baselineScores
        (updateBaseline baseline results mappings runId updatedAt).1) mapping.baselineKey =
        some ((score? (currentScores results) mapping.resultKey).getD 0) := by
      rw [held, score?, Value.field?, sets.written _ _
        (writesScore_of_agree member (unreserved mapping member) (agree mapping member))]
      exact asDouble?_numberOrZero _
    simp only [Comparison.metricOf, MetricMapping.metric, written]
    exact MetricMapping.unchanged_compared (isFinite_score (inRange_currentScores range) _)
      (nonneg mapping member)
  refine ⟨?_, fun mapping member => ⟨unchanged mapping member, ?_⟩, ?_⟩
  · have noFailure : ¬ comparison.status = "FAIL" := by
      rw [Comparison.ofDocuments_fails]
      rintro ⟨mapping, member, failed⟩
      rw [(unchanged mapping member).passes] at failed
      cases failed
    exact (Comparison.status_cases comparison).resolve_right noFailure
  · obtain ⟨latest, last, keyed⟩ : ∃ latest : MetricMapping, latest.LastIn mappings ∧
        latest.resultKey = mapping.resultKey := exists_lastWith member
    exact ⟨_, Comparison.mem_ofDocuments.mpr ⟨latest, last, rfl⟩, keyed⟩
  · intro entry member
    obtain ⟨mapping, last, rfl⟩ := Comparison.mem_ofDocuments.mp member
    exact unchanged mapping last.mem

/-- Results that are all scores, one of them missing a number. -/
def flatResults : Value :=
  .object [("a", .number (.real 62.5)), ("b", .null),
    ("decode", .object [("tokens_per_second", .number (.natural 120))])]

def threeMappings : List MetricMapping :=
  [⟨"a", "x", "A", none⟩, ⟨"b", "y", "B", some 0⟩, ⟨"a", "x", "A again", some 2⟩]

def freshBaseline : Value × Option BaselineError :=
  updateBaseline (.object [("model", .text "m")]) flatResults threeMappings (some "7") ⟨0, 0⟩

theorem updated_baseline_passes_flatResults :
    freshBaseline.2 = none ∧
    (Comparison.ofDocuments flatResults freshBaseline.1 threeMappings 5 ⟨60, 0⟩).status = "PASS" ∧
    (∀ mapping ∈ threeMappings,
      (Comparison.metricOf flatResults freshBaseline.1 5 mapping).Unchanged ∧
      ∃ entry ∈ (Comparison.ofDocuments flatResults freshBaseline.1 threeMappings 5
        ⟨60, 0⟩).metrics.entries, entry.1 = mapping.resultKey) ∧
    ∀ entry ∈ (Comparison.ofDocuments flatResults freshBaseline.1 threeMappings 5
      ⟨60, 0⟩).metrics.entries, entry.2.Unchanged := by
  have succeeds : freshBaseline.2 = none := by decide
  have range : flatResults.InRange := by
    refine .object (List.forall_mem_cons.mpr ⟨.number (.real rfl), List.forall_mem_cons.mpr
      ⟨.null, List.forall_mem_singleton.mpr (.object (List.forall_mem_singleton.mpr ?_))⟩⟩)
    exact .number (.natural (by decide))
  exact ⟨succeeds, updated_baseline_passes _ _ _ _ _ _ _ range (by decide) (by decide) (by decide)
    succeeds⟩

end InferenceBench
