import InferenceBench.Proofs.Baseline.Writing

/-! # Later updates

An update sets fields, and which ones it sets depends on the mappings, on the sections that the
results have and on whether a run is given, but not on the values. So an update after which another
one sets at least the same fields leaves no trace, in any of the four objects that are written.
-/

namespace InferenceBench

open Json

/-! ## The fields that are set -/

/-- The scores that are set, one after the other. -/
def scoreWrites (current : Value) (mappings : List MetricMapping) : List (String × Value) :=
  mappings.map (fun mapping =>
    (mapping.baselineKey, numberOrZero (current.field? mapping.resultKey))) ++
    [("num_samples", numberOrZero (current.field? "num_samples"))]

/-- The rates that are set in the throughput. -/
def rateWrites (results : Value) (sections : List String) : List (String × Value) :=
  sections.filterMap fun part => (results.field? part).map fun workload =>
    (part ++ "_tokens_per_second", (workload.field? "tokens_per_second").getD .null)

/-- The fields of the root that are set, given the accuracy. The throughput is not among them. -/
def rootWrites (now : Instant) (runId : Option String) (accuracy : Fields) :
    List (String × Value) :=
  [("accuracy", .object accuracy), ("last_updated", .text (String.ofList now.text))] ++
    (runId.map fun id => ("run_id", Value.text id)).toList

/-- The accuracy with the scores of the results in place of those that it had. -/
def accuracyWith (results : Value) (mappings : List MetricMapping) (accuracy scores : Fields) :
    Fields :=
  accuracy.insert "ifeval" (.object (replaceScores (currentScores results) mappings scores))

section Writes

variable {results : Value} {mappings : List MetricMapping} {runId : Option String} {now : Instant}
  {root accuracy scores performance : Fields}

theorem replaceScores_eq (current : Value) (mappings : List MetricMapping) (scores : Fields) :
    replaceScores current mappings scores = scores.insertAll (scoreWrites current mappings) := by
  simp [replaceScores, scoreWrites, Fields.insertAll, List.foldl_map]

theorem scoreWrites_keys (current : Value) (mappings : List MetricMapping) :
    (scoreWrites current mappings).map Prod.fst =
      mappings.map MetricMapping.baselineKey ++ ["num_samples"] := by
  simp [scoreWrites]

theorem stamp_eq (now : Instant) (runId : Option String) (root accuracy : Fields) :
    stamp now runId (root.insert "accuracy" (.object accuracy)) =
      root.insertAll (rootWrites now runId accuracy) := by
  cases runId <;> rfl

theorem rootWrites_keys (now : Instant) (runId : Option String) (accuracy : Fields) :
    (rootWrites now runId accuracy).map Prod.fst =
      ["accuracy", "last_updated"] ++ (runId.map fun _ => "run_id").toList := by
  cases runId <;> rfl

theorem find?_accuracy (now : Instant) (runId : Option String) (root accuracy : Fields) :
    (root.insertAll (rootWrites now runId accuracy)).find? "accuracy" =
      some (.object accuracy) := by
  rw [rootWrites, List.cons_append, Fields.insertAll_cons, Fields.find?_insertAll_of_notMem]
  · exact Fields.find?_insert_self _ _ _
  · cases runId <;> simp

theorem find?_throughput (now : Instant) (runId : Option String) (root accuracy : Fields) :
    (root.insertAll (rootWrites now runId accuracy)).find? "performance" =
      root.find? "performance" := by
  refine Fields.find?_insertAll_of_notMem ?_ root
  rw [rootWrites_keys]
  cases runId <;> simp

/-! ## Updates as fields that are set -/

theorem updateBaseline_eq (child : Fields.Child "accuracy" root accuracy)
    (inner : Fields.Child "ifeval" accuracy scores) :
    updateBaseline (.object root) results mappings runId now =
      ((replaceThroughput results (root.insertAll
          (rootWrites now runId (accuracyWith results mappings accuracy scores)))
          measuredSections).map .object id) := by
  have replaced : replaceAccuracy (currentScores results) mappings root =
      .ok (root.insert "accuracy" (.object (accuracyWith results mappings accuracy scores))) := by
    simp [replaceAccuracy, childFields?_eq_some.mpr child, childFields?_eq_some.mpr inner,
      accuracyWith]
  rw [updateBaseline_object replaced, stamp_eq]
  rfl

/-! ## The throughput -/

theorem rateWrites_of_unmeasured {sections : List String} (absent : ¬ Measured results sections) :
    rateWrites results sections = [] := by
  refine List.filterMap_eq_nil_iff.mpr fun part member => ?_
  cases held : results.field? part with
  | none => rfl
  | some workload => exact absurd ⟨part, member, workload, held⟩ absent

theorem rateWrites_keys_subset {later : Value} {sections : List String}
    (covered : ∀ part ∈ sections, (results.field? part).isSome → (later.field? part).isSome) :
    (rateWrites results sections).map Prod.fst ⊆ (rateWrites later sections).map Prod.fst := by
  intro key member
  simp only [rateWrites, List.mem_map, List.mem_filterMap, Option.map_eq_some_iff] at member ⊢
  obtain ⟨_, ⟨part, within, workload, held, rfl⟩, rfl⟩ := member
  obtain ⟨again, found⟩ := Option.isSome_iff_exists.mp (covered part within (by simp [held]))
  exact ⟨_, ⟨part, within, again, found, rfl⟩, rfl⟩

theorem Measured.of_covered {later : Value} {sections : List String}
    (measured : Measured results sections)
    (covered : ∀ part ∈ sections, (results.field? part).isSome → (later.field? part).isSome) :
    Measured later sections := by
  obtain ⟨part, member, workload, held⟩ := measured
  exact ⟨part, member, Option.isSome_iff_exists.mp (covered part member (by simp [held]))⟩

theorem replaceThroughput_unmeasured {sections : List String}
    (absent : ¬ Measured results sections) (root : Fields) :
    replaceThroughput results root sections = (root, none) := by
  have throughput := throughput_cases results root sections
  generalize replaceThroughput results root sections = outcome at throughput
  cases throughput with
  | unmeasured => rfl
  | written measured | refused measured => exact absurd measured absent

theorem replaceThroughput_measured {sections : List String} (measured : Measured results sections)
    (child : Fields.Child "performance" root performance) :
    replaceThroughput results root sections =
      (root.insert "performance" (.object (performance.insertAll (rateWrites results sections))),
        none) := by
  -- by induction on the sections: each of them finds the throughput that the ones before it have
  -- left
  induction sections generalizing root performance with
  | nil => simp [Measured] at measured
  | cons part rest ih =>
      cases held : results.field? part with
      | none =>
          have rates : rateWrites results (part :: rest) = rateWrites results rest := by
            simp [rateWrites, held]
          rw [rates, ← ih ((measured_cons_of_missing held).mp measured) child]
          simp only [replaceThroughput, held]
      | some workload =>
          let performance' := performance.insert (part ++ "_tokens_per_second")
            ((workload.field? "tokens_per_second").getD .null)
          have step : replaceThroughput results root (part :: rest) =
              replaceThroughput results (root.insert "performance" (.object performance'))
                rest := by
            simp only [replaceThroughput, held, childFields?_eq_some.mpr child, performance']
          have rates : performance.insertAll (rateWrites results (part :: rest)) =
              performance'.insertAll (rateWrites results rest) := by
            simp [rateWrites, held, performance']
          rw [step, rates]
          by_cases more : Measured results rest
          · rw [ih more (Fields.child_insert.mpr rfl), Fields.insert_insert_self]
          · rw [replaceThroughput_unmeasured more, rateWrites_of_unmeasured more,
              Fields.insertAll_nil]

theorem updateBaseline_unmeasured (absent : ¬ Measured results measuredSections)
    (child : Fields.Child "accuracy" root accuracy)
    (inner : Fields.Child "ifeval" accuracy scores) :
    updateBaseline (.object root) results mappings runId now =
      (.object (root.insertAll
        (rootWrites now runId (accuracyWith results mappings accuracy scores))), none) := by
  rw [updateBaseline_eq child inner, replaceThroughput_unmeasured absent]
  rfl

theorem updateBaseline_measured (measured : Measured results measuredSections)
    (child : Fields.Child "accuracy" root accuracy) (inner : Fields.Child "ifeval" accuracy scores)
    (throughput : Fields.Child "performance" root performance) :
    updateBaseline (.object root) results mappings runId now =
      (.object (root.insertAll
        (rootWrites now runId (accuracyWith results mappings accuracy scores) ++
          [("performance",
            .object (performance.insertAll (rateWrites results measuredSections)))])),
        none) := by
  rw [updateBaseline_eq child inner, Fields.insertAll_append,
    replaceThroughput_measured measured (throughput.congr (find?_throughput _ _ _ _))]
  rfl

end Writes

/-! ## Two updates -/

theorem child_accuracyWith {results : Value} {mappings : List MetricMapping}
    {accuracy scores : Fields} :
    Fields.Child "ifeval" (accuracyWith results mappings accuracy scores)
      (replaceScores (currentScores results) mappings scores) :=
  Fields.child_insert.mpr rfl

/-- The scores that an update has written are written over by the next one. -/
theorem accuracyWith_again (first second : Value) (mappings : List MetricMapping)
    (accuracy scores : Fields) :
    accuracyWith second mappings (accuracyWith first mappings accuracy scores)
        (replaceScores (currentScores first) mappings scores) =
      accuracyWith second mappings accuracy scores := by
  have same : (scoreWrites (currentScores first) mappings).map Prod.fst ⊆
      (scoreWrites (currentScores second) mappings).map Prod.fst := by
    rw [scoreWrites_keys, scoreWrites_keys]
    exact List.Subset.refl _
  simp only [accuracyWith, Fields.insert_insert_self, replaceScores_eq,
    Fields.insertAll_insertAll same]

theorem rootWrites_keys_subset {firstRun secondRun : Option String}
    (runs : firstRun.isSome → secondRun.isSome) (firstTime secondTime : Instant)
    (first second : Fields) :
    (rootWrites firstTime firstRun first).map Prod.fst ⊆
      (rootWrites secondTime secondRun second).map Prod.fst := by
  rw [rootWrites_keys, rootWrites_keys]
  cases firstRun with
  | none => simp
  | some _ =>
      obtain ⟨_, rfl⟩ := Option.isSome_iff_exists.mp (runs rfl)
      simp

/-- The next update finds the accuracy and the throughput that the last one has written. -/
theorem child_of_written (now : Instant) (runId : Option String)
    (root accuracy performance : Fields) :
    let left := root.insertAll (rootWrites now runId accuracy ++
      [("performance", .object performance)])
    Fields.Child "accuracy" left accuracy ∧ Fields.Child "performance" left performance := by
  intro left
  have last : left = (root.insertAll (rootWrites now runId accuracy)).insert "performance"
      (.object performance) := Fields.insertAll_append _ _ _
  rw [last]
  constructor
  · exact .held ((Fields.find?_insert_of_ne (by decide) _ _).trans (find?_accuracy _ _ _ _))
  · exact Fields.child_insert.mpr rfl

/-- A later update overrides an earlier one with the same mappings, if its results have all
sections that those of the earlier one had, and if it says the run where the earlier one did. It
gives what it would have given without the earlier one, or is refused as it would have been. -/
theorem later_update_overrides (baseline first second : Value) (mappings : List MetricMapping)
    (firstRun secondRun : Option String) (firstTime secondTime : Instant)
    (sections : ∀ part ∈ measuredSections,
      (first.field? part).isSome → (second.field? part).isSome)
    (runs : firstRun.isSome → secondRun.isSome)
    (succeeds : (updateBaseline baseline first mappings firstRun firstTime).2 = none) :
    updateBaseline (updateBaseline baseline first mappings firstRun firstTime).1 second mappings
        secondRun secondTime =
      updateBaseline baseline second mappings secondRun secondTime := by
  obtain @⟨root, accuracy, scores, child, inner, throughput⟩ := updatable_iff.mp succeeds
  have set := rootWrites_keys_subset runs firstTime secondTime
    (accuracyWith first mappings accuracy scores) (accuracyWith second mappings accuracy scores)
  by_cases measured : Measured first measuredSections
  · obtain ⟨performance, throughput⟩ := throughput measured
    have again : Measured second measuredSections := measured.of_covered sections
    obtain ⟨accurate, rated⟩ := child_of_written firstTime firstRun root
      (accuracyWith first mappings accuracy scores)
      (performance.insertAll (rateWrites first measuredSections))
    rw [updateBaseline_measured measured child inner throughput,
      updateBaseline_measured again accurate child_accuracyWith rated, accuracyWith_again,
      Fields.insertAll_insertAll (rateWrites_keys_subset sections), Fields.insertAll_insertAll,
      updateBaseline_measured again child inner throughput]
    intro key member
    rw [List.map_append, List.mem_append] at member ⊢
    exact member.imp_left (@set key)
  · rw [updateBaseline_unmeasured measured child inner,
      updateBaseline_eq (.held (find?_accuracy _ _ _ _)) child_accuracyWith,
      accuracyWith_again, Fields.insertAll_insertAll set, updateBaseline_eq child inner]

/-- Results of a later run, which has a section more and no list of scores of its own. -/
def laterResults : Value :=
  .object
    [("a", .number (.negative 3)), ("cached", .null),
      ("decode", .object [("tokens_per_second", .number (.natural 5))]), ("prefill", .array [])]

theorem later_update_overrides_heldBaseline :
    updateBaseline heldBaseline measuredResults fourMappings (some "7") ⟨0, 0⟩ =
      (updatedBaseline, none) ∧
    updateBaseline updatedBaseline laterResults fourMappings (some "8") ⟨60, 0⟩ =
      updateBaseline heldBaseline laterResults fourMappings (some "8") ⟨60, 0⟩ := by
  have first : updateBaseline heldBaseline measuredResults fourMappings (some "7") ⟨0, 0⟩ =
      (updatedBaseline, none) := rfl
  have later := later_update_overrides heldBaseline measuredResults laterResults fourMappings
    (some "7") (some "8") ⟨0, 0⟩ ⟨60, 0⟩ (by decide) (fun _ => rfl) (congrArg Prod.snd first)
  rw [first] at later
  exact ⟨first, later⟩

end InferenceBench
