import InferenceBench.Run.Benchmark
import InferenceBench.Proofs.Run.Accounting

/-! # The two phases of a benchmark

A benchmark is two batches one after the other. The prefill batch has its tally complete before the
decode batch makes its first call, and each of the two summaries tells of its own batch only.
-/

namespace InferenceBench

/-- The timeout of a workload; an override that is zero is none. -/
def timeoutOr (usual : Span) : Option Span → Span
  | some timeout => if timeout = .zero then usual else timeout
  | none => usual

theorem withTimeout?_eq (workload : Workload) (override : Option Span) :
    BenchmarkConfig.withTimeout? workload override =
      { workload with timeout := timeoutOr workload.timeout override } := by
  cases override with
  | none => rfl
  | some timeout =>
      simp only [BenchmarkConfig.withTimeout?, Workload.withTimeout, timeoutOr]
      split <;> rfl

namespace WorkloadKind

/-- The tokens of an outcome that count for the throughput of the workload. -/
def tokens (kind : WorkloadKind) (outcome : Outcome) : Nat :=
  match kind with
  | .prefill => outcome.promptTokens
  | .decode => outcome.completionTokens

end WorkloadKind

/-- A summary of a number of requests with these fates: each request is a success or a failure, the
failures are listed, and the tokens are those of the successes that the workload measures. -/
structure WorkloadSummary.Accounts (fates : Fates) (kind : WorkloadKind) (count : Nat)
    (summary : WorkloadSummary) : Prop where
  every : summary.successful + summary.failed = count
  listed : summary.failed = summary.failures.length
  tokens : summary.totalTokens =
    ((successesOf (fates.returned (List.range' 1 count))).map kind.tokens).sum

theorem Served.accounts {fates : Fates} {workload : Workload} {model : String} {plan : BatchPlan}
    {rounds : List Round} (served : Served fates workload model plan.chunks rounds)
    (kind : WorkloadKind) (wallTime : Span) (costPerHour : Float) :
    (WorkloadSummary.ofTally kind ((Replay.batch workload model plan rounds).1.finish wallTime)
      costPerHour).Accounts fates kind plan.totalRequests := by
  have same := served.same_as_fated
  rw [Tally.foldl_record, Fates.successesOf_outcomes] at same
  simp only [Tally.empty, Nat.zero_add, List.nil_append] at same
  have every := Fates.length_outcomes fates (List.range' 1 plan.totalRequests)
  rw [Fates.successesOf_outcomes, List.length_range'] at every
  refine ⟨?_, ?_, ?_⟩
  · exact (congrArg₂ _ same.successful same.failed).trans every
  · exact same.failed.trans same.failures.length_eq.symm
  · cases kind with
    | prefill => exact same.promptTokens
    | decode => exact same.completionTokens

namespace Replay

/-- A phase of a benchmark; how long each takes is given. -/
def phase (config : BenchmarkConfig) (wallTime : WorkloadKind → Span) (workload : Workload) :
    StateM Replay Tally := do
  let tally ← workload.run (tasks.perform Call.requestId) tell config.model config.plan
  pure (tally.finish (wallTime workload.kind))

def benchmark (config : BenchmarkConfig) (wallTime : WorkloadKind → Span) (rounds : List Round) :
    BenchmarkReport × Replay :=
  ((config.run (phase config wallTime)).run ⟨rounds, [], []⟩).run

theorem phase_run {fates : Fates} {config : BenchmarkConfig} {workload : Workload}
    {rounds : List Round} (served : Served fates workload config.model config.plan.chunks rounds)
    (wallTime : WorkloadKind → Span) (later : List Round) (calls : List Call)
    (events : List Event) :
    (phase config wallTime workload).run ⟨rounds ++ later, calls, events⟩ =
      pure ((batch workload config.model config.plan rounds).1.finish (wallTime workload.kind),
        ⟨later,
          calls ++ (List.range' 1 config.numRequests).map (workload.call config.model),
          events ++ (batch workload config.model config.plan rounds).2.events⟩) := by
  simp only [phase, StateT.run_bind, workload_run served, pure_bind, batch_eq served,
    calls_of_chunks]
  rfl

end Replay

open Replay

/-- Three requests, two at a time; the timeout of the prefill requests is given as zero. -/
def shortBenchmark : BenchmarkConfig :=
  { baseUrl := "http://h"
    endpoint := ⟨.http, [], ['h'], none, [[]], none, none⟩
    model := "m"
    concurrency := 2
    numRequests := 3
    maxNewTokens := 128
    costPerHour := 0
    retry := .standard
    provenance := ⟨"", "", ""⟩
    prefillTimeout := some .zero
    decodeTimeout := some (.ofSeconds 7) }

/-- The third request fails, all others succeed with more tokens of completion than of prompt. -/
def thirdFails : Fates
  | 3 => .returns (.failed 3 "HTTP 500" 4)
  | requestId => .returns (.succeeded requestId 10 100 ⟨5⟩ 1)

def decodeInTurn : List Round :=
  [⟨[1, 2], [.finished (.succeeded 1 10 100 ⟨5⟩ 1), .finished (.succeeded 2 10 100 ⟨5⟩ 1)]⟩,
    ⟨[3], [.finished (.failed 3 "HTTP 500" 4)]⟩]

end InferenceBench
