import InferenceBench.Numeral.Layout
import InferenceBench.Server.Endpoint
import InferenceBench.Server.RetryPolicy

/-! # Benchmark configurations -/

namespace InferenceBench

/-- Where the measured server came from. -/
structure Provenance where
  commitSha : String
  gitRef : String
  imageTag : String
  deriving Repr, DecidableEq

structure BenchmarkConfig where
  /-- The base URL without slashes at its end. -/
  baseUrl : String
  endpoint : Url
  model : String
  concurrency : Nat
  numRequests : Nat
  maxNewTokens : Nat
  costPerHour : Float
  retry : RetryPolicy
  provenance : Provenance
  /-- The timeouts that replace those of the workloads. -/
  prefillTimeout : Option Span
  decodeTimeout : Option Span
  deriving Repr, DecidableEq

/-- Why a benchmark cannot be run as asked. -/
inductive BenchmarkConfigError where
  | noConcurrency
  | noRequests
  | noTokens
  | cost (costPerHour : Float)
  | noModel
  | endpoint (error : EndpointError)
  deriving Repr, DecidableEq

def BenchmarkConfigError.message : BenchmarkConfigError → String
  | .noConcurrency => "concurrency must be greater than zero"
  | .noRequests => "num_requests must be greater than zero"
  | .noTokens => "max_new_tokens must be greater than zero"
  | .cost costPerHour =>
    "cost_per_hour must be a non-negative number, got " ++
      String.ofList (Numeral.Layout.plain.writeDouble costPerHour)
  | .noModel => "model must not be empty"
  | .endpoint error => error.message

/-- Whether a name holds nothing but white space. -/
def isBlankName (name : String) : Bool := name.toList.all Text.isBlank

namespace BenchmarkConfig

/-- The configuration with the given figures, all else being as usual. -/
def ofFigures (baseUrl model : String) (concurrency numRequests maxNewTokens : Nat)
    (costPerHour : Float) : Except BenchmarkConfigError BenchmarkConfig :=
  if concurrency = 0 then .error .noConcurrency
  else if numRequests = 0 then .error .noRequests
  else if maxNewTokens = 0 then .error .noTokens
  else if !costPerHour.isFinite || costPerHour < 0 then .error (.cost costPerHour)
  else if isBlankName model then .error .noModel
  else
    let baseUrl := String.ofList (bareBaseUrl baseUrl)
    match resolveEndpoint baseUrl chatPath with
    | .error error => .error (.endpoint error)
    | .ok endpoint =>
      .ok
        { baseUrl, endpoint, model, concurrency, numRequests, maxNewTokens, costPerHour
          retry := .standard
          provenance := ⟨"", "", ""⟩
          prefillTimeout := none
          decodeTimeout := none }

end BenchmarkConfig

end InferenceBench
