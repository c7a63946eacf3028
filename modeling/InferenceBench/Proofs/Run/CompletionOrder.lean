import InferenceBench.Proofs.Run.Rounds

/-! # The order of completion

Two batches that differ only in the numbers of their tasks and in the order in which the tasks of a
chunk end have the same summary but for the order of the failures, and a failure stays among
those of its chunk.
-/

namespace InferenceBench

namespace Tally.SameUpToOrder

variable {one other : Tally}

theorem tokensPerSecond (same : one.SameUpToOrder other) (kind : WorkloadKind) :
    kind.tokensPerSecond one = kind.tokensPerSecond other := by
  cases kind with
  | prefill =>
      simp only [WorkloadKind.tokensPerSecond, promptRate, same.promptTokens, same.wallTime]
  | decode =>
      simp only [WorkloadKind.tokensPerSecond, completionRate, same.completionTokens,
        same.wallTime]

theorem measuredTokens (same : one.SameUpToOrder other) (kind : WorkloadKind) :
    kind.measuredTokens one = kind.measuredTokens other := by
  cases kind with
  | prefill => exact same.promptTokens
  | decode => exact same.completionTokens

theorem summary (same : one.SameUpToOrder other) (kind : WorkloadKind) (costPerHour : Float) :
    WorkloadSummary.ofTally kind one costPerHour =
      { WorkloadSummary.ofTally kind other costPerHour with failures := one.failures } := by
  have sorted : one.sortedLatencies = other.sortedLatencies := sortedLatencies_perm same.latencies
  simp only [WorkloadSummary.ofTally, same.tokensPerSecond, same.measuredTokens, same.wallTime,
    same.successful, same.failed, medianLatency, latencyAt, sorted]

end Tally.SameUpToOrder

theorem failuresOf_flatMap (chunks : List DoneChunk) :
    failuresOf (chunks.flatMap DoneChunk.outcomes) =
      (chunks.map fun done => failuresOf done.outcomes).flatten := by
  rw [failuresOf, List.filter_flatMap, List.map_flatMap, List.flatMap_def]
  rfl

section

variable {fates : Fates} {workload : Workload} {model : String} {plan : BatchPlan}
  {rounds : List Round}

/-- The failures of a chunk are those of its requests, in some order. -/
theorem Served.failures_of_chunks {chunks : List Chunk}
    (served : Served fates workload model chunks rounds) :
    List.Forall₂ (fun chunk failures =>
        failures.Perm (failuresOf (fates.outcomes chunk.requestIds))) chunks
      ((doneChunks workload model chunks rounds).map fun done => failuresOf done.outcomes) := by
  induction served with
  | nil => exact .nil
  | cons serves _ ih => exact .cons ((serves.outcomes_perm.filter _).map _) ih

theorem Served.failures_eq (served : Served fates workload model plan.chunks rounds) :
    (Replay.batch workload model plan rounds).1.failures =
      ((doneChunks workload model plan.chunks rounds).map fun done =>
        failuresOf done.outcomes).flatten := by
  rw [Replay.batch_eq served, Tally.foldl_record, failuresOf_flatMap]
  rfl

/-- Whatever the order in which tasks end, the summary is the same but for the order of the
failures. The failures of each chunk are the same up to their order, and they stand before those
of the chunks after it. -/
theorem summary_forgets_order {one other : List Round}
    (servedOne : Served fates workload model plan.chunks one)
    (servedOther : Served fates workload model plan.chunks other)
    (wallTime : Span) (costPerHour : Float) :
    let summary rounds := WorkloadSummary.ofTally workload.kind
      ((Replay.batch workload model plan rounds).1.finish wallTime) costPerHour
    summary one = { summary other with failures := (summary one).failures } ∧
      ∃ ofOne ofOther : List (List Failure),
        (summary one).failures = ofOne.flatten ∧
        (summary other).failures = ofOther.flatten ∧
        List.Forall₂ (fun chunk failures =>
          failures.Perm (failuresOf (fates.outcomes chunk.requestIds))) plan.chunks ofOne ∧
        List.Forall₂ (fun chunk failures =>
          failures.Perm (failuresOf (fates.outcomes chunk.requestIds))) plan.chunks ofOther := by
  intro summary
  have same : (Replay.batch workload model plan one).1.SameUpToOrder
      (Replay.batch workload model plan other).1 :=
    servedOne.same_as_fated.trans servedOther.same_as_fated.symm
  refine ⟨(same.finish wallTime).summary workload.kind costPerHour, _, _, servedOne.failures_eq,
    servedOther.failures_eq, servedOne.failures_of_chunks, servedOther.failures_of_chunks⟩

end

/-- The second request crashes, all others fail. -/
def noSuccess : Fates
  | 2 => .crashes "dispatcher bug"
  | requestId => .returns (.failed requestId "HTTP 500" 4)

/-- Two requests in one chunk and a third in the next; those of the first chunk end in turn. -/
def inTurn : List Round :=
  [⟨[1, 2], [.finished (.failed 1 "HTTP 500" 4), .crashed 2 "dispatcher bug"]⟩,
    ⟨[3], [.finished (.failed 3 "HTTP 500" 4)]⟩]

def swapped : List Round :=
  [⟨[1, 2], [.crashed 2 "dispatcher bug", .finished (.failed 1 "HTTP 500" 4)]⟩,
    ⟨[3], [.finished (.failed 3 "HTTP 500" 4)]⟩]

theorem summary_forgets_order_swapped :
    Served noSuccess .prefill "m" (BatchPlan.chunks ⟨3, 2⟩) inTurn ∧
      Served noSuccess .prefill "m" (BatchPlan.chunks ⟨3, 2⟩) swapped ∧
      let summary rounds := WorkloadSummary.ofTally .prefill
        ((Replay.batch .prefill "m" ⟨3, 2⟩ rounds).1.finish (.ofSeconds 1)) 5
      summary inTurn = { summary swapped with failures := (summary inTurn).failures } := by
  have chunks : BatchPlan.chunks ⟨3, 2⟩ = [⟨0, 2⟩, ⟨2, 3⟩] := by
    simp [BatchPlan.chunks, Chunk.chunksFrom]
  have first : Served noSuccess .prefill "m" (BatchPlan.chunks ⟨3, 2⟩) inTurn := by
    rw [chunks]
    exact .cons ⟨rfl, by decide, .refl _⟩ (.cons ⟨rfl, by decide, .refl _⟩ .nil)
  have second : Served noSuccess .prefill "m" (BatchPlan.chunks ⟨3, 2⟩) swapped := by
    rw [chunks]
    exact .cons ⟨rfl, by decide, .swap _ _ _⟩ (.cons ⟨rfl, by decide, .refl _⟩ .nil)
  exact ⟨first, second, (summary_forgets_order first second (.ofSeconds 1) 5).1⟩

end InferenceBench
