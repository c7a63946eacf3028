import InferenceBench.Proofs.Baseline.Overriding

/-! # Refused updates

A baseline has one of four faults, or it can be updated. Three of the faults are found before
anything is written. The fourth is found when the scores and the time are in place already: they are
then those of an update that goes through, and nothing else was touched.
-/

namespace InferenceBench

open Json

/-! ## Faults -/

def Json.Value.IsObject (value : Value) : Prop := ∃ fields, value = .object fields

/-- Something else than an object is under the key. -/
def Json.Fields.Blocked (key : String) (fields : Fields) : Prop :=
  ∃ held, fields.find? key = some held ∧ ¬ held.IsObject

/-- What is wrong with a baseline that cannot be updated. -/
inductive BaselineFault (results : Value) : Value → BaselineError → Prop
  | document {baseline} : ¬ baseline.IsObject → BaselineFault results baseline .notAnObject
  | accuracy {root : Fields} : root.Blocked "accuracy" →
      BaselineFault results (.object root) (.fieldNotAnObject "accuracy")
  | scores {root accuracy : Fields} : root.find? "accuracy" = some (.object accuracy) →
      accuracy.Blocked "ifeval" → BaselineFault results (.object root) (.fieldNotAnObject "ifeval")
  | throughput {root : Fields} : root.Blocked "performance" → Measured results measuredSections →
      BaselineFault results (.object root) (.fieldNotAnObject "performance")

/-- What a refused update leaves. -/
inductive Refuses (results : Value) (mappings : List MetricMapping) (runId : Option String)
    (now : Instant) : Value → Value × BaselineError → Prop
  | untouched {baseline error} : BaselineFault results baseline error →
      error ≠ .fieldNotAnObject "performance" →
      Refuses results mappings runId now baseline (baseline, error)
  /-- The writes of an update that goes through, but for the throughput. Were the throughput an
  object, the update would differ in nothing else. -/
  | begun {root updated accuracy accuracy' scores scores' : Fields} :
      BaselineFault results (.object root) (.fieldNotAnObject "performance") →
      Fields.Child "accuracy" root accuracy → Fields.Child "ifeval" accuracy scores →
      scores.Sets scores' (WritesScore (currentScores results) mappings) →
      accuracy.Sets accuracy' (fun key value => key = "ifeval" ∧ value = .object scores') →
      root.Sets updated (fun key value => key ≠ "performance" ∧
        WritesRoot results runId now accuracy' [] key value) →
      (∀ performance, ∃ performance',
        updateBaseline (.object (root.insert "performance" (.object performance))) results mappings
            runId now =
          (.object (updated.insert "performance" (.object performance')), none)) →
      Refuses results mappings runId now (.object root)
        (.object updated, .fieldNotAnObject "performance")

theorem childFields?_eq_none {key : String} {fields : Fields} :
    childFields? key fields = none ↔ fields.Blocked key := by
  unfold childFields? Fields.Blocked
  cases fields.find? key with
  | none => simp
  | some held => cases held <;> simp [Value.IsObject]

theorem not_child_of_blocked {key : String} {fields child : Fields} (blocked : fields.Blocked key) :
    ¬ Fields.Child key fields child := by
  intro found
  cases (childFields?_eq_none.mpr blocked).symm.trans (childFields?_eq_some.mpr found)

theorem child_or_blocked (key : String) (fields : Fields) :
    (∃ child, Fields.Child key fields child) ∨ fields.Blocked key := by
  cases found : childFields? key fields with
  | none => exact .inr (childFields?_eq_none.mp found)
  | some child => exact .inl ⟨child, childFields?_eq_some.mp found⟩

theorem Updatable.not_fault {results baseline : Value} (updatable : Updatable results baseline)
    (error : BaselineError) : ¬ BaselineFault results baseline error := by
  intro fault
  cases updatable with
  | object child inner throughput =>
      cases fault with
      | document noObject => exact noObject ⟨_, rfl⟩
      | accuracy blocked => exact not_child_of_blocked blocked child
      | scores held blocked =>
          cases child with
          | held object =>
              obtain rfl := Value.object.inj (Option.some.inj (held.symm.trans object))
              exact not_child_of_blocked blocked inner
          | missing absent => cases held.symm.trans absent
      | throughput blocked measured =>
          obtain ⟨performance, found⟩ := throughput measured
          exact not_child_of_blocked blocked found

/-! ## Refusals -/

section Refusal

variable {results : Value} {mappings : List MetricMapping} {runId : Option String} {now : Instant}
  {root accuracy scores : Fields}

/-- The scores are refused before anything is written. -/
theorem fault_of_replaceAccuracy {current : Value} {error : BaselineError}
    (refused : replaceAccuracy current mappings root = .error error) :
    BaselineFault results (.object root) error ∧ error ≠ .fieldNotAnObject "performance" := by
  simp only [replaceAccuracy] at refused
  split at refused
  · next noAccuracy =>
      obtain rfl := Except.error.inj refused
      exact ⟨.accuracy (childFields?_eq_none.mp noAccuracy), by decide⟩
  · next accuracy found =>
      split at refused
      · next noScores =>
          obtain rfl := Except.error.inj refused
          have blocked := childFields?_eq_none.mp noScores
          refine ⟨.scores ?_ blocked, by decide⟩
          cases childFields?_eq_some.mp found with
          | held object => exact object
          | missing absent =>
              obtain ⟨held, inNone, -⟩ := blocked
              cases inNone
      · cases refused

theorem sets_root (results : Value) (runId : Option String) (now : Instant)
    (root accuracy : Fields) :
    root.Sets (root.insertAll (rootWrites now runId accuracy)) fun key value =>
      key ≠ "performance" ∧ WritesRoot results runId now accuracy [] key value := by
  rw [← stamp_eq]
  refine ((Fields.sets_insert _ _ _).trans (sets_stamp now runId _)).congr fun key value => ?_
  rw [writesRoot_iff]
  grind

/-- An update that is refused for the throughput has done all that comes before. -/
theorem refuses_throughput (child : Fields.Child "accuracy" root accuracy)
    (inner : Fields.Child "ifeval" accuracy scores)
    (measured : Measured results measuredSections) (blocked : root.Blocked "performance") :
    Refuses results mappings runId now (.object root)
      (.object (root.insertAll
          (rootWrites now runId (accuracyWith results mappings accuracy scores))),
        .fieldNotAnObject "performance") := by
  refine .begun (.throughput blocked measured) child inner
    (sets_scores (currentScores results) mappings scores) (Fields.sets_insert _ _ _)
    (sets_root results runId now root _) ?_
  intro performance
  have accurate : Fields.Child "accuracy" (root.insert "performance" (.object performance))
      accuracy := child.congr (Fields.find?_insert_of_ne (by decide) _ _)
  refine ⟨Fields.insertAll performance (rateWrites results measuredSections), ?_⟩
  rw [updateBaseline_measured measured accurate inner (Fields.child_insert.mpr rfl),
    Fields.insertAll_insert (by simp), Fields.insertAll_append]
  rfl

theorem updateBaseline_blocked (measured : Measured results measuredSections)
    (child : Fields.Child "accuracy" root accuracy) (inner : Fields.Child "ifeval" accuracy scores)
    (blocked : root.Blocked "performance") :
    updateBaseline (.object root) results mappings runId now =
      (.object (root.insertAll
        (rootWrites now runId (accuracyWith results mappings accuracy scores))),
        some (.fieldNotAnObject "performance")) := by
  have still : Fields.Blocked "performance" (root.insertAll
      (rootWrites now runId (accuracyWith results mappings accuracy scores))) := by
    rwa [Fields.Blocked, find?_throughput]
  have throughput := throughput_cases results (root.insertAll
    (rootWrites now runId (accuracyWith results mappings accuracy scores))) measuredSections
  rw [updateBaseline_eq child inner]
  generalize replaceThroughput results _ measuredSections = outcome at throughput ⊢
  cases throughput with
  | unmeasured absent => exact absurd measured absent
  | written _ found => exact absurd found (not_child_of_blocked still)
  | refused => rfl

theorem refuses_of_error {baseline left : Value} {error : BaselineError}
    (refused : updateBaseline baseline results mappings runId now = (left, some error)) :
    Refuses results mappings runId now baseline (left, error) := by
  cases baseline with
  | null | boolean | number | text | array =>
      obtain ⟨rfl, same⟩ := Prod.mk.inj refused
      obtain rfl := Option.some.inj same
      exact .untouched (.document (by rintro ⟨_, ⟨⟩⟩)) (by decide)
  | object root =>
      cases replaced : replaceAccuracy (currentScores results) mappings root with
      | error other =>
          simp only [updateBaseline, replaced] at refused
          obtain ⟨rfl, same⟩ := Prod.mk.inj refused
          obtain rfl := Option.some.inj same
          obtain ⟨fault, early⟩ := fault_of_replaceAccuracy replaced
          exact .untouched fault early
      | ok prepared =>
          obtain ⟨accuracy, child, scores, inner⟩ := exists_replaceAccuracy.mp ⟨_, replaced⟩
          by_cases measured : Measured results measuredSections
          · obtain ⟨performance, throughput⟩ | blocked := child_or_blocked "performance" root
            · cases (updateBaseline_measured measured child inner throughput).symm.trans refused
            · obtain ⟨rfl, same⟩ := Prod.mk.inj
                ((updateBaseline_blocked measured child inner blocked).symm.trans refused)
              obtain rfl := Option.some.inj same
              exact refuses_throughput child inner measured blocked
          · cases (updateBaseline_unmeasured measured child inner).symm.trans refused

theorem Refuses.fault {baseline left : Value} {error : BaselineError}
    (refuses : Refuses results mappings runId now baseline (left, error)) :
    BaselineFault results baseline error := by
  cases refuses with
  | untouched fault | begun fault => exact fault

theorem refused_iff {baseline : Value} :
    (∃ left error, updateBaseline baseline results mappings runId now = (left, some error)) ↔
      ∃ error, BaselineFault results baseline error := by
  constructor
  · rintro ⟨left, error, refused⟩
    exact ⟨error, (refuses_of_error refused).fault⟩
  · rintro ⟨error, fault⟩
    cases outcome : (updateBaseline baseline results mappings runId now).2 with
    | none => exact absurd fault ((updatable_iff.mp outcome).not_fault error)
    | some error => exact ⟨_, error, Prod.ext rfl outcome⟩

end Refusal

end InferenceBench
