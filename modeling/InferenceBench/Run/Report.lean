import InferenceBench.Run.Config
import InferenceBench.Run.Cost
import InferenceBench.Run.Workload

/-! # Reports

What a benchmark found out, in three forms: the results document, the summary on the console, and
a section in Markdown for the summary of a job. -/

namespace InferenceBench

open Json

/-- The figures of one workload; latencies are in seconds. -/
structure WorkloadSummary where
  tokensPerSecond : Float
  totalTokens : Nat
  totalSeconds : Float
  cost : CostFigure
  successful : Nat
  failed : Nat
  latencyP50 : Float
  latencyP95 : Float
  latencyP99 : Float
  failures : List Failure
  deriving Repr, DecidableEq

namespace WorkloadSummary

def ofTally (kind : WorkloadKind) (tally : Tally) (costPerHour : Float) : WorkloadSummary :=
  { tokensPerSecond := kind.tokensPerSecond tally
    totalTokens := kind.measuredTokens tally
    totalSeconds := tally.wallTime.seconds
    cost := .ofThroughput (kind.tokensPerSecond tally) costPerHour
    successful := tally.successful
    failed := tally.failed
    latencyP50 := tally.medianLatency.seconds
    latencyP95 := (tally.latencyAt 0.95).seconds
    latencyP99 := (tally.latencyAt 0.99).seconds
    failures := tally.failures }

/-- The summary as documents hold it; of the failures they have only the count. -/
def tree (summary : WorkloadSummary) : Tree :=
  .object
    [field "tokens_per_second" (.ofDouble summary.tokensPerSecond),
      field "total_tokens" (.ofNat summary.totalTokens),
      field "total_time_sec" (.ofDouble summary.totalSeconds),
      field "cost_per_million_tokens" summary.cost.tree,
      field "successful_requests" (.ofNat summary.successful),
      field "failed_requests" (.ofNat summary.failed),
      field "latency_p50" (.ofDouble summary.latencyP50),
      field "latency_p95" (.ofDouble summary.latencyP95),
      field "latency_p99" (.ofDouble summary.latencyP99)]

def seconds (x : Float) : List Char := Numeral.fixed 2 x ++ ['s']

/-- The three latencies in a row. -/
def latencies (summary : WorkloadSummary) : List Char :=
  Text.joinWith " / ".toList
    [seconds summary.latencyP50, seconds summary.latencyP95, seconds summary.latencyP99]

end WorkloadSummary

structure BenchmarkReport where
  model : String
  baseUrl : String
  costPerHour : Float
  concurrency : Nat
  numRequests : Nat
  provenance : Provenance
  prefill : WorkloadSummary
  decode : WorkloadSummary
  deriving Repr, DecidableEq

/-- The lines, each with its end. -/
def linesText (lines : List (List Char)) : List Char := lines.flatMap (· ++ ['\n'])

/-- A rule of `width` marks across the console. -/
def ruleText (mark : Char) (width : Nat) : List Char := List.replicate width mark

namespace BenchmarkReport

def ofTallies (config : BenchmarkConfig) (prefill decode : Tally) : BenchmarkReport :=
  { model := config.model
    baseUrl := config.baseUrl
    costPerHour := config.costPerHour
    concurrency := config.concurrency
    numRequests := config.numRequests
    provenance := config.provenance
    prefill := .ofTally .prefill prefill config.costPerHour
    decode := .ofTally .decode decode config.costPerHour }

def tree (report : BenchmarkReport) : Tree :=
  .object
    [field "model" (.ofString report.model),
      field "base_url" (.ofString report.baseUrl),
      field "dgx_cost_per_hour" (.ofDouble report.costPerHour),
      field "concurrency" (.ofNat report.concurrency),
      field "num_requests" (.ofNat report.numRequests),
      field "commit_sha" (.ofString report.provenance.commitSha),
      field "ref" (.ofString report.provenance.gitRef),
      field "image_tag" (.ofString report.provenance.imageTag),
      field "prefill" report.prefill.tree,
      field "decode" report.decode.tree]

/-- The results document. -/
def document (report : BenchmarkReport) : List Char := report.tree.pretty

def failureLines (failures : List Failure) : List (List Char) :=
  if failures.isEmpty then []
  else
    ("  Failures: ".toList ++ Numeral.digitText failures.length) ::
      failures.map fun failure =>
        "    request ".toList ++ Numeral.digitText failure.requestId ++ ": ".toList ++
          failure.error.toList

/-- The part of the console summary about one workload. -/
def workloadLines (report : BenchmarkReport) (title noun : String) (summary : WorkloadSummary) :
    List (List Char) :=
  [[], "### ".toList ++ title.toList,
    "  Successful requests: ".toList ++ Numeral.digitText summary.successful ++ ['/'] ++
      Numeral.digitText report.numRequests] ++
  (if 0 < summary.failed then
    ["  Failed requests: ".toList ++ Numeral.digitText summary.failed]
    else []) ++
  ["  Total ".toList ++ noun.toList ++ " tokens: ".toList ++ Numeral.digitText summary.totalTokens,
    "  Wall time: ".toList ++ WorkloadSummary.seconds summary.totalSeconds,
    "  Throughput: ".toList ++ Numeral.fixed 2 summary.tokensPerSecond ++ " tokens/sec".toList,
    "  Cost per 1M tokens: ".toList ++ summary.cost.display,
    "  Latency P50/P95/P99: ".toList ++ summary.latencies] ++
  failureLines summary.failures

/-- The summary on the console. -/
def summary (report : BenchmarkReport) : List Char :=
  linesText
    ([ruleText '=' 60, "RESULTS".toList, ruleText '=' 60] ++
      report.workloadLines "Prefill (Input Tokens)" "input" report.prefill ++
      report.workloadLines "Decode (Output Tokens)" "output" report.decode)

/-- A text as code in Markdown. -/
def codeText (text : List Char) : List Char := '\x60' :: text ++ ['\x60']

/-- The part of the Markdown section about one workload. -/
def workloadSection (title : String) (summary : WorkloadSummary) : List (List Char) :=
  ["### ".toList ++ title.toList,
    "- Throughput: **".toList ++ Numeral.fixed 2 summary.tokensPerSecond ++ " tok/s**".toList,
    "- Cost per 1M tokens: **".toList ++ summary.cost.display ++ "**".toList,
    "- Latency P50/P95/P99: ".toList ++ summary.latencies, []]

/-- The section in Markdown. -/
def markdown (report : BenchmarkReport) : List Char :=
  linesText
    (["## vLLM Benchmark Results (Concurrent)".toList, [],
      "- Model: ".toList ++ codeText report.model.toList,
      "- Base URL: ".toList ++ codeText report.baseUrl.toList,
      "- Image: ".toList ++ codeText report.provenance.imageTag.toList,
      "- Commit: ".toList ++ codeText report.provenance.commitSha.toList ++ " (".toList ++
        codeText report.provenance.gitRef.toList ++ ")".toList,
      "- DGX Spark cost: ".toList ++
        codeText ('$' :: Numeral.Layout.plain.writeDouble report.costPerHour ++ "/hour".toList),
      "- Concurrency: ".toList ++ codeText (Numeral.digitText report.concurrency) ++
        " | Requests: ".toList ++ codeText (Numeral.digitText report.numRequests), []] ++
      workloadSection "Prefill (input tokens)" report.prefill ++
      workloadSection "Decode (output tokens)" report.decode)

end BenchmarkReport

end InferenceBench
