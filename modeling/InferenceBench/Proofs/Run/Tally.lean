import InferenceBench.Run.Report
import Mathlib.Algebra.Order.Ring.Nat

/-! # What a tally adds up to

Recording is a fold, and each field of the tally is a sum or a list over the outcomes that count
for it. All figures but the lists themselves forget the order of the outcomes; the order
statistics do because they are taken of the sorted latencies.
-/

namespace InferenceBench

namespace Span

variable {a b c : Span}

theorem atMost_iff : a.atMost b = true ↔ a.nanoseconds ≤ b.nanoseconds := decide_eq_true_iff

theorem atMost_refl (a : Span) : a.atMost a = true := atMost_iff.mpr le_rfl

theorem atMost_trans (first : a.atMost b = true) (second : b.atMost c = true) :
    a.atMost c = true := by
  rw [atMost_iff] at first second ⊢
  exact first.trans second

theorem atMost_total (a b : Span) : (a.atMost b || b.atMost a) = true := by
  rw [Bool.or_eq_true, atMost_iff, atMost_iff]
  exact Nat.le_total _ _

theorem mean_between (ordered : a.atMost b = true) :
    a.atMost (a.mean b) = true ∧ (a.mean b).atMost b = true := by
  simp only [atMost_iff, mean] at ordered ⊢
  omega

end Span

/-- The failure that a tally keeps of an outcome. -/
def Outcome.failure (outcome : Outcome) : Failure :=
  ⟨outcome.requestId, outcome.error.getD "unknown error"⟩

/-- The failures among outcomes, in their order. -/
def failuresOf (outcomes : List Outcome) : List Failure :=
  (outcomes.filter (!·.success)).map Outcome.failure

def successesOf (outcomes : List Outcome) : List Outcome := outcomes.filter (·.success)

theorem failuresOf_cons (outcome : Outcome) (outcomes : List Outcome) :
    failuresOf (outcome :: outcomes) = failuresOf [outcome] ++ failuresOf outcomes := by
  rw [failuresOf, ← List.singleton_append, List.filter_append, List.map_append]
  rfl

theorem length_successesOf_add (outcomes : List Outcome) :
    (successesOf outcomes).length + (failuresOf outcomes).length = outcomes.length := by
  rw [successesOf, failuresOf, List.length_map, ← List.countP_eq_length_filter,
    ← List.countP_eq_length_filter]
  simpa using (List.length_eq_countP_add_countP (·.success) (l := outcomes)).symm

namespace Tally

theorem foldl_record (tally : Tally) (outcomes : List Outcome) :
    outcomes.foldl record tally =
      { promptTokens := tally.promptTokens + ((successesOf outcomes).map (·.promptTokens)).sum
        completionTokens :=
          tally.completionTokens + ((successesOf outcomes).map (·.completionTokens)).sum
        wallTime := tally.wallTime
        successful := tally.successful + (successesOf outcomes).length
        failed := tally.failed + (failuresOf outcomes).length
        latencies := tally.latencies ++ (successesOf outcomes).map (·.latency)
        failures := tally.failures ++ failuresOf outcomes } := by
  induction outcomes generalizing tally with
  | nil => simp [successesOf, failuresOf]
  | cons outcome outcomes ih =>
      rw [List.foldl_cons, ih]
      by_cases success : outcome.success
      · simp [record, successesOf, failuresOf, success, Nat.add_assoc, Nat.add_comm]
      · simp [record, successesOf, failuresOf, success, Outcome.failure, Nat.add_assoc,
          Nat.add_comm]

/-- Two tallies that count the same and list the same, perhaps in another order. -/
structure SameUpToOrder (one other : Tally) : Prop where
  promptTokens : one.promptTokens = other.promptTokens
  completionTokens : one.completionTokens = other.completionTokens
  wallTime : one.wallTime = other.wallTime
  successful : one.successful = other.successful
  failed : one.failed = other.failed
  latencies : one.latencies.Perm other.latencies
  failures : one.failures.Perm other.failures

namespace SameUpToOrder

theorem symm {one other : Tally} (same : one.SameUpToOrder other) : other.SameUpToOrder one :=
  ⟨same.promptTokens.symm, same.completionTokens.symm, same.wallTime.symm, same.successful.symm,
    same.failed.symm, same.latencies.symm, same.failures.symm⟩

theorem trans {one other third : Tally} (first : one.SameUpToOrder other)
    (second : other.SameUpToOrder third) : one.SameUpToOrder third :=
  ⟨first.promptTokens.trans second.promptTokens,
    first.completionTokens.trans second.completionTokens, first.wallTime.trans second.wallTime,
    first.successful.trans second.successful, first.failed.trans second.failed,
    first.latencies.trans second.latencies, first.failures.trans second.failures⟩

theorem finish {one other : Tally} (same : one.SameUpToOrder other) (wallTime : Span) :
    (one.finish wallTime).SameUpToOrder (other.finish wallTime) :=
  { same with wallTime := rfl }

end SameUpToOrder

theorem foldl_record_perm {one other : List Outcome} (same : one.Perm other) :
    SameUpToOrder (one.foldl record empty) (other.foldl record empty) := by
  have successes : (successesOf one).Perm (successesOf other) := same.filter _
  have failures : (failuresOf one).Perm (failuresOf other) := (same.filter _).map _
  rw [foldl_record, foldl_record]
  exact
    { promptTokens := congrArg (_ + ·) (successes.map _).sum_nat
      completionTokens := congrArg (_ + ·) (successes.map _).sum_nat
      wallTime := rfl
      successful := congrArg (_ + ·) successes.length_eq
      failed := congrArg (_ + ·) failures.length_eq
      latencies := (successes.map _).append_left _
      failures := failures.append_left _ }

theorem sortedLatencies_ordered (tally : Tally) :
    tally.sortedLatencies.Pairwise fun a b => a.atMost b = true :=
  @List.pairwise_mergeSort _ Span.atMost (fun _ _ _ => Span.atMost_trans) Span.atMost_total _

theorem sortedLatencies_perm {one other : Tally} (same : one.latencies.Perm other.latencies) :
    one.sortedLatencies = other.sortedLatencies := by
  have antisymmetric : ∀ a b : Span, a.atMost b → b.atMost a → a = b := by
    rintro ⟨a⟩ ⟨b⟩
    simp only [Span.atMost, decide_eq_true_eq, Span.mk.injEq]
    exact Nat.le_antisymm
  have sameSorted : one.sortedLatencies.Perm other.sortedLatencies :=
    ((List.mergeSort_perm _ _).trans same).trans (List.mergeSort_perm _ _).symm
  exact sameSorted.eq_of_pairwise (fun a b _ _ => antisymmetric a b)
    one.sortedLatencies_ordered other.sortedLatencies_ordered

end Tally

end InferenceBench
