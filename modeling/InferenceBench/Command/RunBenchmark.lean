import InferenceBench.Command.Arguments
import InferenceBench.Command.System
import InferenceBench.Run.Benchmark
import InferenceBench.Server.Dispatcher

/-! # Running a benchmark

The program that measures a server and writes the report. -/

namespace InferenceBench.Command

structure RunBenchmark where
  baseUrl : String
  model : String
  concurrency : Nat
  numRequests : Nat
  maxNewTokens : Nat
  costPerHour : Float
  maxAttempts : Nat
  retryDelays : List Span
  prefillTimeout : Option Span
  decodeTimeout : Option Span
  output : String
  stepSummary : Option String
  provenance : Provenance
  deriving Repr, DecidableEq

namespace RunBenchmark

def options : List OptionSpec :=
  [⟨"base-url", .single .text, some "BENCH_BASE_URL"⟩, ⟨"model", .single .text, some "BENCH_MODEL"⟩,
    ⟨"concurrency", .single .natural, some "CONCURRENCY"⟩,
    ⟨"num-requests", .single .natural, some "NUM_REQUESTS"⟩,
    ⟨"max-new-tokens", .single .short, some "MAX_NEW_TOKENS"⟩,
    ⟨"cost-per-hour", .single .double, some "DGX_COST_PER_HOUR"⟩,
    ⟨"max-attempts", .single .natural, none⟩, ⟨"retry-delays-secs", .list .natural, none⟩,
    ⟨"prefill-timeout-secs", .single .natural, some "PREFILL_TIMEOUT_SECS"⟩,
    ⟨"decode-timeout-secs", .single .natural, some "DECODE_TIMEOUT_SECS"⟩,
    ⟨"output", .single .path, some "BENCH_RESULTS_PATH"⟩,
    ⟨"step-summary", .single .path, some "GITHUB_STEP_SUMMARY"⟩,
    ⟨"commit-sha", .single .text, some "GITHUB_SHA"⟩,
    ⟨"ref", .single .text, some "GITHUB_REF_NAME"⟩,
    ⟨"image-tag", .single .text, some "BENCH_IMAGE_TAG"⟩]

def ofGiven (given : Given) : Except Refusal RunBenchmark :=
  match given.text? "base-url" with
  | none => .error .usage
  | some baseUrl =>
    .ok
      { baseUrl
        model := (given.text? "model").getD "meta-llama/Llama-3.1-8B-Instruct"
        concurrency := (given.natural? "concurrency").getD 32
        numRequests := (given.natural? "num-requests").getD 64
        maxNewTokens := (given.short? "max-new-tokens").getD 128
        costPerHour := (given.double? "cost-per-hour").getD 0.16
        maxAttempts := (given.natural? "max-attempts").getD 3
        retryDelays := ((given.naturals? "retry-delays-secs").getD [2, 4, 8]).map Span.ofSeconds
        prefillTimeout := (given.natural? "prefill-timeout-secs").map Span.ofSeconds
        decodeTimeout := (given.natural? "decode-timeout-secs").map Span.ofSeconds
        output := (given.text? "output").getD "bench_results.json"
        stepSummary := given.text? "step-summary"
        provenance :=
          ⟨(given.text? "commit-sha").getD "", (given.text? "ref").getD "",
            (given.text? "image-tag").getD ""⟩ }

/-- The configuration of the benchmark; the retry policy is looked at first. -/
def config (command : RunBenchmark) : Except String BenchmarkConfig := do
  let retry ← (RetryPolicy.ofAttempts command.maxAttempts command.retryDelays).mapError
    RetryPolicyError.message
  let config ← (BenchmarkConfig.ofFigures command.baseUrl command.model command.concurrency
    command.numRequests command.maxNewTokens command.costPerHour).mapError
    BenchmarkConfigError.message
  pure { config with
    retry
    provenance := command.provenance
    prefillTimeout := command.prefillTimeout
    decodeTimeout := command.decodeTimeout }

/-- What is about to be measured, as it is shown on the console. -/
def header (config : BenchmarkConfig) : List Char :=
  linesText
    [ruleText '=' 60, "vLLM Concurrent Benchmark".toList, ruleText '=' 60,
      "Model: ".toList ++ config.model.toList, "Base URL: ".toList ++ config.baseUrl.toList,
      "DGX Spark Cost: $".toList ++ Numeral.Layout.plain.writeDouble config.costPerHour ++
        "/hour".toList,
      "Concurrency: ".toList ++ Numeral.digitText config.concurrency,
      "Requests per benchmark: ".toList ++ Numeral.digitText config.numRequests,
      "Max new tokens (decode): ".toList ++ Numeral.digitText config.maxNewTokens,
      ruleText '=' 60]

variable {m : Type → Type} [Monad m]

/-- Runs one workload against the server and takes its time. -/
def phase (system : System m) (config : BenchmarkConfig) (workload : Workload) : m Tally := do
  let dispatcher : Dispatcher := ⟨config.endpoint, config.retry⟩
  let perform (calls : List Call) : m (List Ending) :=
    system.together (calls.map fun call =>
      (call, dispatcher.dispatch system.connection system.log call.requestId call.request
        call.timeout))
  let start ← system.clock
  let tally ← workload.run perform system.log config.model config.plan
  let stop ← system.clock
  pure (tally.finish ⟨stop.nanoseconds - start.nanoseconds⟩)

def run (command : RunBenchmark) (system : System m) : Program m Verdict := do
  let config ← orStop id command.config
  system.say (header config)
  let report ← (config.run (phase system config) : m BenchmarkReport)
  system.sayLine ('\n' :: report.summary)
  system.sayLine "=== Benchmark summary (JSON) ===".toList
  system.sayLine report.document
  system.save "failed to write results to " command.output report.document
  if let some path := command.stepSummary then
    if !(← system.append path report.markdown) then throw ("failed to write job summary " ++ path)
  pure .success

end RunBenchmark

end InferenceBench.Command
