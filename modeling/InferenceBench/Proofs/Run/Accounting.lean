import InferenceBench.Proofs.Run.Rounds

/-! # Every request counts once

However the tasks of a chunk are numbered and in whatever order they end, the dispatcher gets each
request once, and the tally has each of them once: a success, a failure that was returned, or the
crash of its task.
-/

namespace InferenceBench

namespace Fate

def returned? : Fate → Option Outcome
  | .returns outcome => some outcome
  | .crashes _ => none

def crash? (requestId : Nat) : Fate → Option Failure
  | .returns _ => none
  | .crashes reason => some ⟨requestId, "request task failed: " ++ reason⟩

end Fate

namespace Fates

/-- The outcomes of the requests that return one, in the order of the requests. -/
def returned (fates : Fates) (requestIds : List Nat) : List Outcome :=
  requestIds.filterMap fun requestId => (fates requestId).returned?

/-- The failures of the requests whose tasks crash. -/
def crashed (fates : Fates) (requestIds : List Nat) : List Failure :=
  requestIds.filterMap fun requestId => (fates requestId).crash? requestId

theorem successesOf_outcomes (fates : Fates) (requestIds : List Nat) :
    successesOf (fates.outcomes requestIds) = successesOf (fates.returned requestIds) := by
  induction requestIds with
  | nil => rfl
  | cons requestId requestIds ih =>
      simp only [successesOf, outcomes, returned, List.map_cons, List.filterMap_cons] at ih ⊢
      cases fates requestId with
      | returns outcome =>
          change (outcome :: _).filter _ = (outcome :: _).filter _
          rw [List.filter_cons, List.filter_cons, ih]
      | crashes reason => exact ih

theorem failuresOf_outcomes (fates : Fates) (requestIds : List Nat) :
    (failuresOf (fates.outcomes requestIds)).Perm
      (failuresOf (fates.returned requestIds) ++ fates.crashed requestIds) := by
  induction requestIds with
  | nil => exact List.Perm.refl _
  | cons requestId requestIds ih =>
      simp only [outcomes, returned, crashed, List.map_cons, List.filterMap_cons] at ih ⊢
      cases fates requestId with
      | returns outcome =>
          change (failuresOf (outcome :: _)).Perm (failuresOf (outcome :: _) ++ _)
          rw [failuresOf_cons, failuresOf_cons outcome (List.filterMap _ _), List.append_assoc]
          exact ih.append_left _
      | crashes reason => exact (ih.cons _).trans List.perm_middle.symm

theorem length_outcomes (fates : Fates) (requestIds : List Nat) :
    (successesOf (fates.outcomes requestIds)).length +
      (failuresOf (fates.outcomes requestIds)).length = requestIds.length := by
  rw [length_successesOf_add, outcomes, List.length_map]

end Fates

open Fates

/-- A batch sends each request of its plan once, always the same but for its id, and it tallies the
fate of each: the figures are those of the successes, the failures are those that were returned
and, under the request's own id, those of the tasks that crashed. -/
theorem every_request_counted {fates : Fates} {workload : Workload} {model : String}
    {plan : BatchPlan} {rounds : List Round}
    (served : Served fates workload model plan.chunks rounds) :
    let tally := (Replay.batch workload model plan rounds).1
    let calls := (Replay.batch workload model plan rounds).2.calls
    let requestIds := List.range' 1 plan.totalRequests
    let successes := successesOf (fates.returned requestIds)
    calls = requestIds.map (fun requestId =>
        ⟨requestId, workload.request model, workload.timeout⟩) ∧
      tally.totalRequests = plan.totalRequests ∧
      tally.successful = successes.length ∧
      tally.latencies.Perm (successes.map (·.latency)) ∧
      tally.promptTokens = (successes.map (·.promptTokens)).sum ∧
      tally.completionTokens = (successes.map (·.completionTokens)).sum ∧
      tally.failed = tally.failures.length ∧
      tally.failures.Perm
        (failuresOf (fates.returned requestIds) ++ fates.crashed requestIds) := by
  intro tally calls requestIds successes
  have same : tally.SameUpToOrder ((fates.outcomes requestIds).foldl Tally.record .empty) :=
    served.same_as_fated
  have sent : calls = requestIds.map (workload.call model) := by
    simp only [calls, requestIds, Replay.batch_eq served, calls_of_chunks]
  rw [Tally.foldl_record, successesOf_outcomes] at same
  simp only [Tally.empty, Nat.zero_add, List.nil_append] at same
  have every := length_outcomes fates requestIds
  rw [successesOf_outcomes, List.length_range'] at every
  refine ⟨sent, ?_, same.successful, same.latencies, same.promptTokens, same.completionTokens,
    ?_, same.failures.trans (failuresOf_outcomes fates requestIds)⟩
  · rw [Tally.totalRequests, same.successful, same.failed]
    exact every
  · rw [same.failed, same.failures.length_eq]

/-- The second request crashes, the third fails under another id and without a reason. -/
def crashAndFailure : Fates
  | 2 => .crashes "dispatcher bug"
  | 3 => .returns ⟨9, false, 0, 0, .zero, none, 4⟩
  | requestId => .returns (.succeeded requestId 10 1 ⟨5⟩ 1)

/-- The second task of the first chunk ends first, and both chunks have a task of number seven. -/
def secondFirst : List Round :=
  [⟨[7, 4], [.crashed 4 "dispatcher bug", .finished (.succeeded 1 10 1 ⟨5⟩ 1)]⟩,
    ⟨[7], [.finished ⟨9, false, 0, 0, .zero, none, 4⟩]⟩]

theorem every_request_counted_secondFirst :
    Served crashAndFailure .prefill "m" (BatchPlan.chunks ⟨3, 2⟩) secondFirst ∧
      (Replay.batch .prefill "m" ⟨3, 2⟩ secondFirst).1.totalRequests = 3 ∧
      (Replay.batch .prefill "m" ⟨3, 2⟩ secondFirst).1.promptTokens = 10 ∧
      (Replay.batch .prefill "m" ⟨3, 2⟩ secondFirst).1.failures.Perm
        [⟨9, "unknown error"⟩, ⟨2, "request task failed: dispatcher bug"⟩] := by
  have chunks : BatchPlan.chunks ⟨3, 2⟩ = [⟨0, 2⟩, ⟨2, 3⟩] := by
    simp [BatchPlan.chunks, Chunk.chunksFrom]
  have served : Served crashAndFailure .prefill "m" (BatchPlan.chunks ⟨3, 2⟩) secondFirst := by
    rw [chunks]
    exact .cons ⟨rfl, by decide, .swap _ _ _⟩ (.cons ⟨rfl, by decide, .refl _⟩ .nil)
  obtain ⟨-, total, -, -, prompt, -, -, failures⟩ := every_request_counted served
  exact ⟨served, total, prompt, failures⟩

end InferenceBench
