import InferenceBench.Json.Printer
import InferenceBench.Json.Value

/-! # Events

What the library tells about its work while it goes on. -/

namespace InferenceBench

inductive Level where
  | debug
  | info
  | warn
  deriving Repr, DecidableEq

def Level.name : Level → String
  | .debug => "DEBUG"
  | .info => "INFO"
  | .warn => "WARN"

inductive Event where
  | workloadStarted (label : String) (requests concurrency : Nat)
  | chunkDone (label : String) (done total : Nat)
  | requestFailed (requestId : Nat) (error : String)
  | requestCompleted (requestId attempt : Nat)
  | retrying (requestId attempt delayMilliseconds : Nat) (error : String)
  | generationFailed (sample : Nat) (error : String)
  | sampleDone (sample total : Nat) (outcome : String)
  deriving Repr, DecidableEq

namespace Event

def level : Event → Level
  | .workloadStarted .. | .chunkDone .. | .sampleDone .. => .info
  | .requestFailed .. | .retrying .. | .generationFailed .. => .warn
  | .requestCompleted .. => .debug

def digits (n : Nat) : String := String.ofList (Nat.toDigits 10 n)

def message : Event → String
  | .workloadStarted .. => "starting workload"
  | .chunkDone _ done total =>
    "Progress: " ++ digits done ++ "/" ++ digits total ++ " requests completed"
  | .requestFailed .. => "request failed"
  | .requestCompleted .. => "request completed"
  | .retrying .. => "retrying request"
  | .generationFailed .. => "generation failed"
  | .sampleDone sample total outcome =>
    "[" ++ digits sample ++ "/" ++ digits total ++ "] " ++ outcome

/-- The named values of the event. -/
def fields : Event → List (String × Json.Tree)
  | .workloadStarted label requests concurrency =>
    [("workload", .ofString label), ("requests", .ofNat requests),
      ("concurrency", .ofNat concurrency)]
  | .chunkDone label _ _ => [("workload", .ofString label)]
  | .requestFailed requestId error =>
    [("request_id", .ofNat requestId), ("error", .ofString error)]
  | .requestCompleted requestId attempt =>
    [("request_id", .ofNat requestId), ("attempt", .ofNat attempt)]
  | .retrying requestId attempt delayMilliseconds error =>
    [("request_id", .ofNat requestId), ("attempt", .ofNat attempt),
      ("delay_ms", .ofNat delayMilliseconds), ("error", .ofString error)]
  | .generationFailed sample error => [("sample", .ofNat sample), ("error", .ofString error)]
  | .sampleDone .. => []

end Event

end InferenceBench
