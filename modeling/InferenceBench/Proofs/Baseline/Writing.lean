import InferenceBench.Baseline.Update
import InferenceBench.Proofs.Baseline.MetricTable
import InferenceBench.Proofs.Json.Fields

/-! # What an update writes

An update edits a baseline in four objects that lie inside each other: its root, the accuracy, the
scores in it, and the throughput. In each of them it sets some fields and keeps the others. Which
ones it sets is said by a relation for each object; the steps of the update are then put together
by what is written last. An update goes through exactly if none of the four is something else than
an object, and the throughput matters only where the results have a section of it.
-/

namespace InferenceBench

open Json

/-! ## What is written -/

/-- The score that is written for a key of the results: a number as it is, and zero for anything
else. -/
inductive ScoreOf (current : Value) (key : String) : Value → Prop
  | number {n} : current.field? key = some (.number n) → ScoreOf current key (.number n)
  | zero : (∀ n, current.field? key ≠ some (.number n)) →
      ScoreOf current key (.number (.natural 0))

/-- The scores that the mappings write. The last mapping with a key of the baseline counts. -/
inductive MappedScore (current : Value) (mappings : List MetricMapping) : String → Value → Prop
  | last {mapping value} : LastWith MetricMapping.baselineKey mappings mapping →
      ScoreOf current mapping.resultKey value →
      MappedScore current mappings mapping.baselineKey value

/-- All scores that are written. The number of samples is one of them, whatever is mapped to its
key. -/
inductive WritesScore (current : Value) (mappings : List MetricMapping) : String → Value → Prop
  | samples {value} : ScoreOf current "num_samples" value →
      WritesScore current mappings "num_samples" value
  | mapped {key value} : key ≠ "num_samples" → MappedScore current mappings key value →
      WritesScore current mappings key value

/-- The results have one of the sections. -/
def Measured (results : Value) (sections : List String) : Prop :=
  ∃ part ∈ sections, ∃ workload, results.field? part = some workload

/-- The throughput that is written for the sections of the results. -/
inductive WritesRate (results : Value) (sections : List String) : String → Value → Prop
  | rate {part workload} : part ∈ sections → results.field? part = some workload →
      WritesRate results sections (part ++ "_tokens_per_second")
        ((workload.field? "tokens_per_second").getD .null)

/-- The fields of the root that are written. -/
@[mk_iff]
inductive WritesRoot (results : Value) (runId : Option String) (now : Instant)
    (accuracy performance : Fields) : String → Value → Prop
  | accuracy : WritesRoot results runId now accuracy performance "accuracy" (.object accuracy)
  | time : WritesRoot results runId now accuracy performance "last_updated"
      (.text (String.ofList now.text))
  | run {id} : runId = some id →
      WritesRoot results runId now accuracy performance "run_id" (.text id)
  | performance : Measured results measuredSections →
      WritesRoot results runId now accuracy performance "performance" (.object performance)

/-- An update of the root, given what it finds and leaves in the objects within it. -/
inductive Writes (results : Value) (mappings : List MetricMapping) (runId : Option String)
    (now : Instant) (root updated : Fields) : Prop
  | update {accuracy accuracy' scores scores' performance'} :
      Fields.Child "accuracy" root accuracy → Fields.Child "ifeval" accuracy scores →
      scores.Sets scores' (WritesScore (currentScores results) mappings) →
      accuracy.Sets accuracy' (fun key value => key = "ifeval" ∧ value = .object scores') →
      (Measured results measuredSections → ∃ performance,
        Fields.Child "performance" root performance ∧
        performance.Sets performance' (WritesRate results measuredSections)) →
      root.Sets updated (WritesRoot results runId now accuracy' performance') →
      Writes results mappings runId now root updated

/-- A document that can be updated: the objects that are written are objects, if they are there.
The throughput is one of them where the results have a section of it. -/
inductive Updatable (results : Value) : Value → Prop
  | object {root accuracy scores} : Fields.Child "accuracy" root accuracy →
      Fields.Child "ifeval" accuracy scores →
      (Measured results measuredSections →
        ∃ performance, Fields.Child "performance" root performance) →
      Updatable results (.object root)

/-! ## Scores -/

theorem scoreOf_iff {current value : Value} {key : String} :
    ScoreOf current key value ↔ value = numberOrZero (current.field? key) := by
  constructor
  · intro score
    cases score with
    | number held => rw [held, numberOrZero]
    | zero other =>
        unfold numberOrZero
        split
        · next n held => exact absurd held (other n)
        · rfl
  · rintro rfl
    unfold numberOrZero
    split
    · next n held => exact .number held
    · next other => exact .zero other

theorem sets_mapped (current : Value) (mappings : List MetricMapping) (scores : Fields) :
    scores.Sets (mappings.foldl (fun scores mapping =>
      scores.insert mapping.baselineKey (numberOrZero (current.field? mapping.resultKey))) scores)
      (MappedScore current mappings) := by
  -- by induction on the mappings from the end: the last one is written over all before it
  induction mappings using List.reverseRecOn with
  | nil =>
      refine Fields.sets_nothing ?_ scores
      rintro key value ⟨latest, -⟩
      exact not_lastWith_nil latest
  | append_singleton earlier last ih =>
      rw [List.foldl_append]
      refine (ih.trans (Fields.sets_insert _ _ _)).congr fun key value => ?_
      constructor
      · rintro ⟨latest, score⟩
        obtain rfl | ⟨latest, other⟩ := lastWith_append_singleton.mp latest
        · exact .inl ⟨rfl, scoreOf_iff.mp score⟩
        · exact .inr ⟨.last latest score, fun _ same => other same.1.symm⟩
      · rintro (⟨rfl, rfl⟩ | ⟨⟨latest, score⟩, other⟩)
        · exact .last (lastWith_append_singleton.mpr (.inl rfl)) (scoreOf_iff.mpr rfl)
        · refine .last (lastWith_append_singleton.mpr (.inr ⟨latest, fun same => ?_⟩)) score
          exact other _ ⟨same.symm, rfl⟩

theorem sets_scores (current : Value) (mappings : List MetricMapping) (scores : Fields) :
    scores.Sets (replaceScores current mappings scores) (WritesScore current mappings) := by
  refine ((sets_mapped current mappings scores).trans (Fields.sets_insert _ _ _)).congr ?_
  intro key value
  constructor
  · intro writing
    cases writing with
    | samples score => exact .inl ⟨rfl, scoreOf_iff.mp score⟩
    | mapped other score => exact .inr ⟨score, fun _ same => other same.1⟩
  · rintro (⟨rfl, rfl⟩ | ⟨score, other⟩)
    · exact .samples (scoreOf_iff.mpr rfl)
    · exact .mapped (fun same => other _ ⟨same, rfl⟩) score

/-! ## Children -/

theorem childFields?_eq_some {key : String} {fields child : Fields} :
    childFields? key fields = some child ↔ Fields.Child key fields child := by
  unfold childFields?
  constructor
  · intro found
    split at found
    · next missing =>
        obtain rfl := Option.some.inj found
        exact .missing missing
    · next held =>
        obtain rfl := Option.some.inj found
        exact .held held
    · cases found
  · intro child
    cases child with
    | held found => rw [found]
    | missing found => rw [found]

/-! ## Throughput -/

/-- How the throughput is taken over: there is none, it is written, or it has no place. -/
inductive Throughput (results : Value) (sections : List String) (root : Fields) :
    Fields × Option BaselineError → Prop
  | unmeasured : ¬ Measured results sections → Throughput results sections root (root, none)
  | written {root' performance performance'} : Measured results sections →
      Fields.Child "performance" root performance →
      performance.Sets performance' (WritesRate results sections) →
      root.Sets root' (fun key value => key = "performance" ∧ value = .object performance') →
      Throughput results sections root (root', none)
  | refused : Measured results sections → (∀ child, ¬ Fields.Child "performance" root child) →
      Throughput results sections root (root, some (.fieldNotAnObject "performance"))

theorem sectionKey_injective :
    Function.Injective fun part : String => part ++ "_tokens_per_second" := by
  intro part other same
  have chars := congrArg String.toList same
  simp only [String.toList_append] at chars
  exact String.ext (List.append_cancel_right chars)

theorem measured_cons {results workload : Value} {part : String} {rest : List String}
    (held : results.field? part = some workload) : Measured results (part :: rest) :=
  ⟨part, List.mem_cons_self, workload, held⟩

theorem measured_cons_of_missing {results : Value} {part : String} {rest : List String}
    (missing : results.field? part = none) :
    Measured results (part :: rest) ↔ Measured results rest := by
  simp [Measured, missing]

/-- The rate of the first section and those of the others. Where a section is listed twice, both
rates are the same. -/
theorem writesRate_cons {results workload : Value} {part : String} {rest : List String}
    (held : results.field? part = some workload) (key : String) (value : Value) :
    WritesRate results (part :: rest) key value ↔
      WritesRate results rest key value ∨
        (key = part ++ "_tokens_per_second" ∧
          value = (workload.field? "tokens_per_second").getD .null) ∧
        ∀ later, ¬ WritesRate results rest key later := by
  constructor
  · rintro ⟨member, found⟩
    next other otherWorkload =>
    obtain rfl | member := List.mem_cons.mp member
    · obtain rfl := Option.some.inj (held.symm.trans found)
      by_cases again : other ∈ rest
      · exact .inl (.rate again held)
      · refine .inr ⟨⟨rfl, rfl⟩, ?_⟩
        intro later writing
        generalize same : other ++ "_tokens_per_second" = key at writing
        obtain ⟨within, -⟩ := writing
        exact again (sectionKey_injective same ▸ within)
    · exact .inl (.rate member found)
  · rintro (⟨member, found⟩ | ⟨⟨rfl, rfl⟩, -⟩)
    · exact .rate (List.mem_cons_of_mem _ member) found
    · exact .rate List.mem_cons_self held

theorem writesRate_cons_of_missing {results : Value} {part : String} {rest : List String}
    (missing : results.field? part = none) (key : String) (value : Value) :
    WritesRate results (part :: rest) key value ↔ WritesRate results rest key value := by
  constructor
  · rintro ⟨member, found⟩
    obtain rfl | member := List.mem_cons.mp member
    · cases missing.symm.trans found
    · exact .rate member found
  · rintro ⟨member, found⟩
    exact .rate (List.mem_cons_of_mem _ member) found

section Throughput

variable {results workload : Value} {part : String} {rest : List String} {root : Fields}
  {outcome : Fields × Option BaselineError}

theorem Throughput.skip (missing : results.field? part = none)
    (below : Throughput results rest root outcome) :
    Throughput results (part :: rest) root outcome := by
  cases below with
  | unmeasured absent => exact .unmeasured (mt (measured_cons_of_missing missing).mp absent)
  | written measured child rates set =>
      exact .written ((measured_cons_of_missing missing).mpr measured) child
        (rates.congr (writesRate_cons_of_missing missing)) set
  | refused measured noChild =>
      exact .refused ((measured_cons_of_missing missing).mpr measured) noChild

/-- The rate of a section, and then those of the others. They find the throughput that was just
written, so they are not refused. -/
theorem Throughput.cons {performance : Fields} (held : results.field? part = some workload)
    (child : Fields.Child "performance" root performance)
    (below : Throughput results rest
      (root.insert "performance" (.object (performance.insert (part ++ "_tokens_per_second")
        ((workload.field? "tokens_per_second").getD .null)))) outcome) :
    Throughput results (part :: rest) root outcome := by
  cases below with
  | unmeasured absent =>
      refine .written (measured_cons held) child ?_ (Fields.sets_insert _ _ _)
      have others : ∀ key value, ¬ WritesRate results rest key value := by
        rintro key value ⟨member, found⟩
        exact absent ⟨_, member, _, found⟩
      refine (Fields.sets_insert _ _ _).congr fun key value => ?_
      simp [writesRate_cons held, others]
  | written measured again rates set =>
      obtain rfl := Fields.child_insert.mp again
      refine .written (measured_cons held) child
        (((Fields.sets_insert _ _ _).trans rates).congr (writesRate_cons held)) ?_
      refine ((Fields.sets_insert _ _ _).trans set).congr fun key value => ?_
      constructor
      · exact .inl
      · rintro (last | ⟨⟨rfl, -⟩, unwritten⟩)
        · exact last
        · exact absurd ⟨rfl, rfl⟩ (unwritten _)
  | refused measured noChild => exact absurd (Fields.child_insert.mpr rfl) (noChild _)

end Throughput

theorem throughput_cases (results : Value) (root : Fields) (sections : List String) :
    Throughput results sections root (replaceThroughput results root sections) := by
  -- by induction on the sections, for every root, as each section is written into it
  induction sections generalizing root with
  | nil => exact .unmeasured (by simp [Measured])
  | cons part rest ih =>
      simp only [replaceThroughput]
      split
      · next missing => exact (ih root).skip missing
      · next workload held =>
          split
          · next noChild =>
              refine .refused (measured_cons held) fun child found => ?_
              cases noChild.symm.trans (childFields?_eq_some.mpr found)
          · next performance child => exact (ih _).cons held (childFields?_eq_some.mp child)

/-! ## The update -/

theorem sets_stamp (now : Instant) (runId : Option String) (root : Fields) :
    root.Sets (stamp now runId root) fun key value =>
      key = "last_updated" ∧ value = .text (String.ofList now.text) ∨
      key = "run_id" ∧ ∃ id, runId = some id ∧ value = .text id := by
  cases runId with
  | none => exact (Fields.sets_insert _ _ _).congr fun key value => by simp
  | some id =>
      refine ((Fields.sets_insert _ _ _).trans (Fields.sets_insert _ _ _)).congr ?_
      grind

section Update

variable {results : Value} {mappings : List MetricMapping} {runId : Option String} {now : Instant}
  {root prepared : Fields}

theorem exists_replaceAccuracy {current : Value} :
    (∃ prepared, replaceAccuracy current mappings root = .ok prepared) ↔
      ∃ accuracy, Fields.Child "accuracy" root accuracy ∧
        ∃ scores, Fields.Child "ifeval" accuracy scores := by
  simp only [replaceAccuracy, ← childFields?_eq_some]
  cases childFields? "accuracy" root with
  | none => simp
  | some accuracy => cases inner : childFields? "ifeval" accuracy <;> simp [inner]

theorem sets_accuracy {current : Value}
    (replaced : replaceAccuracy current mappings root = .ok prepared) :
    ∃ accuracy accuracy' scores scores', Fields.Child "accuracy" root accuracy ∧
      Fields.Child "ifeval" accuracy scores ∧
      scores.Sets scores' (WritesScore current mappings) ∧
      accuracy.Sets accuracy' (fun key value => key = "ifeval" ∧ value = .object scores') ∧
      root.Sets prepared fun key value => key = "accuracy" ∧ value = .object accuracy' := by
  simp only [replaceAccuracy] at replaced
  split at replaced
  · cases replaced
  · next accuracy child =>
      split at replaced
      · cases replaced
      · next scores inner =>
          obtain rfl := Except.ok.inj replaced
          exact ⟨accuracy, _, scores, _, childFields?_eq_some.mp child,
            childFields?_eq_some.mp inner, sets_scores current mappings scores,
            Fields.sets_insert _ _ _, Fields.sets_insert _ _ _⟩

theorem updateBaseline_object
    (replaced : replaceAccuracy (currentScores results) mappings root = .ok prepared) :
    updateBaseline (.object root) results mappings runId now =
      (.object (replaceThroughput results (stamp now runId prepared) measuredSections).1,
        (replaceThroughput results (stamp now runId prepared) measuredSections).2) := by
  simp only [updateBaseline, replaced]

theorem find?_performance (runId : Option String) (now : Instant)
    (replaced : replaceAccuracy (currentScores results) mappings root = .ok prepared) :
    (stamp now runId prepared).find? "performance" = root.find? "performance" := by
  obtain ⟨_, _, _, _, -, -, -, -, accuracy⟩ := sets_accuracy replaced
  rw [(sets_stamp now runId prepared).kept _ (by simp), accuracy.kept _ (by simp)]

theorem throughput_succeeds (results : Value) (root : Fields) (sections : List String) :
    (replaceThroughput results root sections).2 = none ↔
      (Measured results sections → ∃ performance, Fields.Child "performance" root performance) := by
  have throughput := throughput_cases results root sections
  generalize replaceThroughput results root sections = outcome at throughput
  cases throughput with
  | unmeasured absent => simp [absent]
  | written _ child _ _ => exact iff_of_true rfl fun _ => ⟨_, child⟩
  | refused measured noChild => simp [measured, noChild]

theorem updatable_iff {baseline : Value} :
    (updateBaseline baseline results mappings runId now).2 = none ↔ Updatable results baseline := by
  cases baseline with
  | null | boolean | number | text | array =>
      refine iff_of_false (by simp [updateBaseline]) ?_
      rintro ⟨⟩
  | object root =>
      cases replaced : replaceAccuracy (currentScores results) mappings root with
      | error error =>
          refine iff_of_false (by simp [updateBaseline, replaced]) ?_
          rintro ⟨child, inner, -⟩
          obtain ⟨prepared, ok⟩ := exists_replaceAccuracy.mpr ⟨_, child, _, inner⟩
          cases replaced.symm.trans ok
      | ok prepared =>
          have same := find?_performance runId now replaced
          rw [updateBaseline_object replaced]
          refine (throughput_succeeds _ _ _).trans ⟨fun performance => ?_, ?_⟩
          · obtain ⟨accuracy, child, scores, inner⟩ := exists_replaceAccuracy.mp ⟨_, replaced⟩
            refine .object child inner fun measured => ?_
            obtain ⟨performance, found⟩ := performance measured
            exact ⟨performance, found.congr same.symm⟩
          · rintro ⟨-, -, performance⟩ measured
            obtain ⟨performance, found⟩ := performance measured
            exact ⟨performance, found.congr same⟩

/-- The root after all steps. They write different fields of it, so that none undoes another. -/
theorem writes_root {updated : Fields}
    (replaced : replaceAccuracy (currentScores results) mappings root = .ok prepared)
    (succeeds : replaceThroughput results (stamp now runId prepared) measuredSections =
      (updated, none)) :
    Writes results mappings runId now root updated := by
  have same := find?_performance runId now replaced
  obtain ⟨accuracy, accuracy', scores, scores', child, inner, scored, accurate, sets⟩ :=
    sets_accuracy replaced
  have stamped := sets.trans (sets_stamp now runId prepared)
  have throughput := throughput_cases results (stamp now runId prepared) measuredSections
  rw [succeeds] at throughput
  cases throughput with
  | unmeasured absent =>
      have performance : ∀ measured : Measured results measuredSections, ∃ performance,
          Fields.Child "performance" root performance ∧
          performance.Sets [] (WritesRate results measuredSections) :=
        fun measured => absurd measured absent
      refine .update child inner scored accurate performance (stamped.congr fun key value => ?_)
      rw [writesRoot_iff]
      grind
  | written measured performance rates set =>
      refine .update child inner scored accurate (fun _ => ⟨_, performance.congr same.symm, rates⟩)
        ((stamped.trans set).congr fun key value => ?_)
      rw [writesRoot_iff]
      grind

theorem writes_of_succeeds {baseline : Value}
    (succeeds : (updateBaseline baseline results mappings runId now).2 = none) :
    ∃ root root', baseline = .object root ∧
      (updateBaseline baseline results mappings runId now).1 = .object root' ∧
      Writes results mappings runId now root root' := by
  obtain ⟨child, inner, -⟩ := updatable_iff.mp succeeds
  next root _ _ =>
  obtain ⟨prepared, replaced⟩ := exists_replaceAccuracy.mpr ⟨_, child, _, inner⟩
  rw [updateBaseline_object replaced] at succeeds ⊢
  exact ⟨root, _, rfl, rfl, writes_root replaced (Prod.ext rfl succeeds)⟩

/-- An update goes through exactly if the objects that it writes are objects, or missing. It then
writes the scores, the time, the run if it is given and the throughput of the sections that the
results have, and keeps all other fields of each object. -/
theorem update_writes_exactly (baseline results : Value) (mappings : List MetricMapping)
    (runId : Option String) (now : Instant) :
    ((updateBaseline baseline results mappings runId now).2 = none ↔ Updatable results baseline) ∧
    ∀ updated, updateBaseline baseline results mappings runId now = (updated, none) →
      ∃ root root', baseline = .object root ∧ updated = .object root' ∧
        Writes results mappings runId now root root' := by
  refine ⟨updatable_iff, fun updated succeeds => ?_⟩
  have writes := writes_of_succeeds (congrArg Prod.snd succeeds)
  rwa [succeeds] at writes

end Update

/-- A baseline without throughput. -/
def heldBaseline : Value :=
  .object
    [("accuracy", .object [("ifeval", .object [("x", .boolean true), ("z", .text "kept")]),
        ("other", .null)]),
      ("model", .text "m")]

/-- Results with two sections, one of them without a rate. -/
def measuredResults : Value :=
  .object
    [("accuracy", .object [("ifeval", .object [("a", .number (.real 62.5)),
        ("num_samples", .number (.natural 3))])]),
      ("decode", .object []),
      ("prefill", .object [("tokens_per_second", .number (.natural 120))])]

/-- One key is mapped twice, and one is that of the number of samples. -/
def fourMappings : List MetricMapping :=
  [⟨"b", "x", "B", none⟩, ⟨"a", "num_samples", "A", none⟩, ⟨"a", "x", "A again", none⟩,
    ⟨"b", "y", "B again", none⟩]

def updatedBaseline : Value :=
  .object
    [("accuracy", .object [("ifeval", .object [("num_samples", .number (.natural 3)),
        ("x", .number (.real 62.5)), ("y", .number (.natural 0)), ("z", .text "kept")]),
        ("other", .null)]),
      ("last_updated", .text "1970-01-01T00:00:00.000000Z"), ("model", .text "m"),
      ("performance", .object [("decode_tokens_per_second", .null),
        ("prefill_tokens_per_second", .number (.natural 120))]),
      ("run_id", .text "7")]

theorem update_writes_exactly_heldBaseline :
    updateBaseline heldBaseline measuredResults fourMappings (some "7") ⟨0, 0⟩ =
      (updatedBaseline, none) ∧
    Updatable measuredResults heldBaseline ∧
    ∃ root root', heldBaseline = .object root ∧ updatedBaseline = .object root' ∧
      Writes measuredResults fourMappings (some "7") ⟨0, 0⟩ root root' := by
  have update : updateBaseline heldBaseline measuredResults fourMappings (some "7") ⟨0, 0⟩ =
      (updatedBaseline, none) := rfl
  obtain ⟨succeeds, writes⟩ :=
    update_writes_exactly heldBaseline measuredResults fourMappings (some "7") ⟨0, 0⟩
  exact ⟨update, succeeds.mp (congrArg Prod.snd update), writes updatedBaseline update⟩

end InferenceBench
