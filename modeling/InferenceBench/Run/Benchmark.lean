import InferenceBench.Run.Batch
import InferenceBench.Run.Report

/-! # Benchmarks

A benchmark runs the prefill workload and then the decode workload against one server. -/

namespace InferenceBench

namespace BenchmarkConfig

def plan (config : BenchmarkConfig) : BatchPlan := ⟨config.numRequests, config.concurrency⟩

/-- The workload with the timeout, if there is one. -/
def withTimeout? (workload : Workload) : Option Span → Workload
  | some timeout => workload.withTimeout timeout
  | none => workload

def prefillWorkload (config : BenchmarkConfig) : Workload :=
  withTimeout? .prefill config.prefillTimeout

def decodeWorkload (config : BenchmarkConfig) : Workload :=
  withTimeout? (.decode config.maxNewTokens) config.decodeTimeout

/-- The report of a benchmark, given how one workload is run and timed. -/
def run {m : Type → Type} [Monad m] (config : BenchmarkConfig) (phase : Workload → m Tally) :
    m BenchmarkReport := do
  let prefill ← phase config.prefillWorkload
  let decode ← phase config.decodeWorkload
  pure (.ofTallies config prefill decode)

end BenchmarkConfig

end InferenceBench
