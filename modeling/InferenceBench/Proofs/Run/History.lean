import InferenceBench.Proofs.Run.Tally
import Mathlib.Data.List.Induction

/-! # Tallies and their histories

A tally is told outcomes and wall times in any order. What it says is read off its history: each
figure is a sum or a list over the outcomes, and the wall time is the last one. So tallies of
histories that follow one another add up, and the order of the outcomes does not matter to any
figure.
-/

namespace InferenceBench

/-- What counts of an outcome: a success has no reason for a failure, and a failure has neither
tokens nor a latency, whatever the outcome says. -/
def Outcome.counted (outcome : Outcome) : Outcome :=
  if outcome.success then { outcome with error := none }
  else { outcome with promptTokens := 0, completionTokens := 0, latency := .zero }

namespace Tally

/-! ## Histories -/

/-- What a tally is told. -/
inductive Step where
  | record (outcome : Outcome)
  | finish (wallTime : Span)
  deriving Repr, DecidableEq

namespace Step

def outcome? : Step → Option Outcome
  | .record outcome => some outcome
  | .finish _ => none

def wallTime? : Step → Option Span
  | .record _ => none
  | .finish wallTime => some wallTime

def counted : Step → Step
  | .record outcome => .record outcome.counted
  | .finish wallTime => .finish wallTime

end Step

/-- The tally after one more step. -/
def take (tally : Tally) : Step → Tally
  | .record outcome => tally.record outcome
  | .finish wallTime => tally.finish wallTime

/-- The tally after a history. -/
def after (history : List Step) : Tally := history.foldl take empty

def recorded (history : List Step) : List Outcome := history.filterMap Step.outcome?

/-- The wall time that was set last. -/
def lastWallTime (history : List Step) : Span :=
  ((history.filterMap Step.wallTime?).getLast?).getD .zero

theorem recorded_append (history later : List Step) :
    recorded (history ++ later) = recorded history ++ recorded later :=
  List.filterMap_append

theorem after_append_singleton (history : List Step) (last : Step) :
    after (history ++ [last]) = (after history).take last := by
  rw [after, List.foldl_append]
  rfl

/-- It does not matter to an outcome whether the wall time was set before. -/
theorem record_finish (tally : Tally) (wallTime : Span) (outcome : Outcome) :
    (tally.finish wallTime).record outcome = (tally.record outcome).finish wallTime := by
  unfold record
  split <;> rfl

theorem after_eq (history : List Step) :
    after history = ((recorded history).foldl record empty).finish (lastWallTime history) := by
  -- by induction from the end: an outcome goes past the wall time, and a wall time replaces the
  -- one before it
  induction history using List.reverseRecOn with
  | nil => rfl
  | append_singleton history last ih =>
      rw [after_append_singleton, ih, recorded_append, List.foldl_append]
      cases last with
      | record outcome =>
          have same : lastWallTime (history ++ [.record outcome]) = lastWallTime history := by
            simp [lastWallTime, Step.wallTime?]
          rw [same]
          exact record_finish _ _ _
      | finish wallTime =>
          have latest : lastWallTime (history ++ [.finish wallTime]) = wallTime := by
            simp [lastWallTime, Step.wallTime?]
          rw [latest]
          rfl

/-! ## What a tally says -/

/-- The figures of a tally with a history. -/
structure Tells (tally : Tally) (history : List Step) : Prop where
  successful : tally.successful = tally.latencies.length
  failed : tally.failed = tally.failures.length
  totalRequests : tally.totalRequests = (recorded history).length
  promptTokens :
    tally.promptTokens = ((successesOf (recorded history)).map (·.promptTokens)).sum
  completionTokens :
    tally.completionTokens = ((successesOf (recorded history)).map (·.completionTokens)).sum
  latencies : tally.latencies = (successesOf (recorded history)).map (·.latency)
  failures : tally.failures = failuresOf (recorded history)
  wallTime : tally.wallTime = lastWallTime history

theorem tells_after (history : List Step) : (after history).Tells history := by
  rw [after_eq, foldl_record]
  constructor <;> simp [finish, empty, totalRequests, length_successesOf_add]

theorem take_counted (tally : Tally) (step : Step) : tally.take step.counted = tally.take step := by
  cases step with
  | finish wallTime => rfl
  | record outcome =>
      by_cases success : outcome.success <;>
        simp [take, Step.counted, Outcome.counted, record, success]

theorem after_counted (history : List Step) :
    after (history.map Step.counted) = after history := by
  rw [after, List.foldl_map]
  simp only [take_counted]
  rfl

/-! ## Histories that follow one another -/

/-- Two tallies in one, with the lists of the first before those of the second. -/
def plus (one other : Tally) : Tally where
  promptTokens := one.promptTokens + other.promptTokens
  completionTokens := one.completionTokens + other.completionTokens
  wallTime := ⟨one.wallTime.nanoseconds + other.wallTime.nanoseconds⟩
  successful := one.successful + other.successful
  failed := one.failed + other.failed
  latencies := one.latencies ++ other.latencies
  failures := one.failures ++ other.failures

theorem foldl_record_append (one other : List Outcome) :
    (one ++ other).foldl record empty =
      (one.foldl record empty).plus (other.foldl record empty) := by
  simp [foldl_record, plus, empty, successesOf, failuresOf, Span.zero]

/-- The wall time is not a sum: it is set again. -/
theorem after_append (history later : List Step) :
    after (history ++ later) =
      ((after history).plus (after later)).finish (lastWallTime (history ++ later)) := by
  rw [after_eq, recorded_append, foldl_record_append, after_eq history, after_eq later]
  rfl

/-! ## The order of the outcomes -/

/-- Two tallies that no figure tells apart. -/
structure SameFigures (one other : Tally) : Prop where
  counts : one.SameUpToOrder other
  totalRequests : one.totalRequests = other.totalRequests
  totalTokens : one.totalTokens = other.totalTokens
  promptRate : one.promptRate = other.promptRate
  completionRate : one.completionRate = other.completionRate
  totalRate : one.totalRate = other.totalRate
  medianLatency : one.medianLatency = other.medianLatency
  latencyAt : ∀ quantile, one.latencyAt quantile = other.latencyAt quantile

theorem SameUpToOrder.sameFigures {one other : Tally} (same : one.SameUpToOrder other) :
    one.SameFigures other := by
  have tokens : one.totalTokens = other.totalTokens :=
    congrArg₂ _ same.promptTokens same.completionTokens
  have sorted := sortedLatencies_perm same.latencies
  exact
    { counts := same
      totalRequests := congrArg₂ _ same.successful same.failed
      totalTokens := tokens
      promptRate := congrArg₂ rate same.promptTokens same.wallTime
      completionRate := congrArg₂ rate same.completionTokens same.wallTime
      totalRate := congrArg₂ rate tokens same.wallTime
      medianLatency := congrArg (fun sorted => (median? sorted).getD .zero) sorted
      latencyAt := fun quantile =>
        congrArg (fun sorted => (percentile? sorted quantile).getD .zero) sorted }

theorem after_perm {one other : List Step} (same : (recorded one).Perm (recorded other))
    (finished : lastWallTime one = lastWallTime other) :
    (after one).SameUpToOrder (after other) := by
  rw [after_eq one, after_eq other, finished]
  exact (foldl_record_perm same).finish _

/-- The figures of a tally are those of its history, of which only what goes with the success of an
outcome counts; recording more adds to them, and the order of the outcomes changes none. -/
theorem figures_of_history (history : List Step) :
    (after history).Tells history ∧
      after (history.map Step.counted) = after history ∧
      (∀ one other : List Outcome,
        (one ++ other).foldl record empty =
          (one.foldl record empty).plus (other.foldl record empty)) ∧
      (∀ later, after (history ++ later) =
        ((after history).plus (after later)).finish (lastWallTime (history ++ later))) ∧
      ∀ other, (recorded other).Perm (recorded history) →
        lastWallTime other = lastWallTime history → (after other).SameFigures (after history) :=
  ⟨tells_after history, after_counted history, foldl_record_append, after_append history,
    fun _ same finished => (after_perm same finished).sameFigures⟩

/-- The first outcome is a success with a reason, the second a failure with tokens and a latency. -/
def contradictoryHistory : List Step :=
  [.record ⟨1, true, 10, 2, ⟨5⟩, some "late", 1⟩, .finish ⟨8⟩,
    .record ⟨2, false, 70, 7, ⟨90⟩, none, 3⟩, .record (.succeeded 3 20 4 ⟨3⟩ 1), .finish ⟨9⟩]

/-- The same outcomes in another order, with a single wall time. -/
def reorderedHistory : List Step :=
  [.record (.succeeded 3 20 4 ⟨3⟩ 1), .record ⟨2, false, 70, 7, ⟨90⟩, none, 3⟩, .finish ⟨9⟩,
    .record ⟨1, true, 10, 2, ⟨5⟩, some "late", 1⟩]

theorem figures_of_history_reordered :
    (recorded reorderedHistory).Perm (recorded contradictoryHistory) ∧
      lastWallTime reorderedHistory = lastWallTime contradictoryHistory ∧
      (after contradictoryHistory).promptTokens = 30 ∧
      (after contradictoryHistory).latencies = [⟨5⟩, ⟨3⟩] ∧
      (after contradictoryHistory).failures = [⟨2, "unknown error"⟩] ∧
      (after reorderedHistory).latencies = [⟨3⟩, ⟨5⟩] ∧
      (after reorderedHistory).medianLatency = (after contradictoryHistory).medianLatency ∧
      (after reorderedHistory).totalRate = (after contradictoryHistory).totalRate := by
  have same : (recorded reorderedHistory).Perm (recorded contradictoryHistory) := by decide
  have finished : lastWallTime reorderedHistory = lastWallTime contradictoryHistory := by decide
  obtain ⟨told, -, -, -, figures⟩ := figures_of_history contradictoryHistory
  obtain ⟨toldReordered, -⟩ := figures_of_history reorderedHistory
  exact ⟨same, finished, told.promptTokens, told.latencies, told.failures,
    toldReordered.latencies, (figures _ same finished).medianLatency,
    (figures _ same finished).totalRate⟩

end Tally

end InferenceBench
