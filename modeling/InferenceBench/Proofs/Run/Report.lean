import InferenceBench.Proofs.Json.Written
import InferenceBench.Proofs.Run.Cost

/-! # Reports read back

What another program finds in a results document: an object with the figures of the report, in
which a workload without throughput has `null` where its cost would be.
-/

namespace InferenceBench

open Json

/-- What documents hold of a cost. -/
def CostFigure.value : CostFigure → Value
  | .perMillionTokens dollars => .ofDouble dollars
  | .unbounded => .null

theorem CostFigure.means {depth : Nat} (cost : CostFigure) :
    cost.tree.Means depth cost.value := by
  cases cost with
  | perMillionTokens dollars => exact means_ofDouble dollars
  | unbounded => exact means_null

namespace WorkloadSummary

/-- What documents hold of the figures of a workload. -/
def value (summary : WorkloadSummary) : Value :=
  .object (Fields.ofList
    [("tokens_per_second", .ofDouble summary.tokensPerSecond),
      ("total_tokens", .number (.natural summary.totalTokens)),
      ("total_time_sec", .ofDouble summary.totalSeconds),
      ("cost_per_million_tokens", summary.cost.value),
      ("successful_requests", .number (.natural summary.successful)),
      ("failed_requests", .number (.natural summary.failed)),
      ("latency_p50", .ofDouble summary.latencyP50),
      ("latency_p95", .ofDouble summary.latencyP95),
      ("latency_p99", .ofDouble summary.latencyP99)])

/-- The counters of the summary fit in 64 bits. -/
structure Fits (summary : WorkloadSummary) : Prop where
  totalTokens : summary.totalTokens < 2 ^ 64
  successful : summary.successful < 2 ^ 64
  failed : summary.failed < 2 ^ 64

theorem fits_ofTally {tally : Tally} (fits : tally.Fits) (kind : WorkloadKind)
    (costPerHour : Float) : (ofTally kind tally costPerHour).Fits where
  totalTokens := fits.measuredTokens kind
  successful := fits.successful
  failed := fits.failed

theorem means {depth : Nat} {summary : WorkloadSummary} (fits : summary.Fits) :
    summary.tree.Means (depth + 1) summary.value :=
  .object <|
    .cons (means_ofDouble _) <| .cons (means_ofNat fits.totalTokens) <|
    .cons (means_ofDouble _) <| .cons summary.cost.means <|
    .cons (means_ofNat fits.successful) <| .cons (means_ofNat fits.failed) <|
    .cons (means_ofDouble _) <| .cons (means_ofDouble _) <| .cons (means_ofDouble _) .nil

theorem cost_value (summary : WorkloadSummary) :
    summary.value.field? "cost_per_million_tokens" = some summary.cost.value := by
  simp [value, Value.field?, Fields.ofList, Fields.find?_insert_self, Fields.find?_insert_of_ne]

end WorkloadSummary

namespace BenchmarkReport

/-- What a results document holds. -/
def value (report : BenchmarkReport) : Value :=
  .object (Fields.ofList
    [("model", .text report.model), ("base_url", .text report.baseUrl),
      ("dgx_cost_per_hour", .ofDouble report.costPerHour),
      ("concurrency", .number (.natural report.concurrency)),
      ("num_requests", .number (.natural report.numRequests)),
      ("commit_sha", .text report.provenance.commitSha),
      ("ref", .text report.provenance.gitRef),
      ("image_tag", .text report.provenance.imageTag), ("prefill", report.prefill.value),
      ("decode", report.decode.value)])

/-- The counters of the report fit in 64 bits. -/
structure Fits (report : BenchmarkReport) : Prop where
  concurrency : report.concurrency < 2 ^ 64
  numRequests : report.numRequests < 2 ^ 64
  prefill : report.prefill.Fits
  decode : report.decode.Fits

theorem means {depth : Nat} {report : BenchmarkReport} (fits : report.Fits) :
    report.tree.Means (depth + 2) report.value :=
  .object <|
    .cons (means_ofString _) <| .cons (means_ofString _) <| .cons (means_ofDouble _) <|
    .cons (means_ofNat fits.concurrency) <| .cons (means_ofNat fits.numRequests) <|
    .cons (means_ofString _) <| .cons (means_ofString _) <| .cons (means_ofString _) <|
    .cons (WorkloadSummary.means fits.prefill) <| .cons (WorkloadSummary.means fits.decode) .nil

theorem ofText?_document {report : BenchmarkReport} (fits : report.Fits) :
    Value.ofText? report.document = some report.value :=
  (means fits : report.tree.Means (125 + 2) report.value).ofText?_pretty

theorem prefill_value (report : BenchmarkReport) :
    report.value.field? "prefill" = some report.prefill.value := by
  simp [value, Value.field?, Fields.ofList, Fields.find?_insert_self, Fields.find?_insert_of_ne]

theorem decode_value (report : BenchmarkReport) :
    report.value.field? "decode" = some report.decode.value := by
  simp [value, Value.field?, Fields.ofList, Fields.find?_insert_self]

theorem cached_value (report : BenchmarkReport) : report.value.field? "cached" = none := by
  simp [value, Value.field?, Fields.ofList, Fields.find?_insert_of_ne, Fields.find?]

end BenchmarkReport

theorem BenchmarkConfig.of_ofFigures {baseUrl model : String}
    {concurrency numRequests maxNewTokens : Nat} {costPerHour : Float} {config : BenchmarkConfig}
    (accepted : ofFigures baseUrl model concurrency numRequests maxNewTokens costPerHour =
      .ok config) :
    ¬ costPerHour < 0 ∧ config.concurrency = concurrency ∧ config.numRequests = numRequests ∧
      config.costPerHour = costPerHour := by
  simp only [ofFigures] at accepted
  split at accepted
  · cases accepted
  · split at accepted
    · cases accepted
    · split at accepted
      · cases accepted
      · split at accepted
        · cases accepted
        · next valid =>
            simp only [Bool.or_eq_true, decide_eq_true_eq, not_or] at valid
            split at accepted
            · cases accepted
            · split at accepted
              · cases accepted
              · cases accepted
                exact ⟨valid.2, rfl, rfl, rfl⟩

end InferenceBench
