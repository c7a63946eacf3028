import InferenceBench.Chat.Message
import InferenceBench.Run.Tally

/-! # Workloads

A workload is one request that is sent many times. The first kind measures how fast a server reads
prompts, the second how fast it writes completions. -/

namespace InferenceBench

inductive WorkloadKind where
  /-- A long prompt and a single token of completion. -/
  | prefill
  /-- A short prompt and a long completion. -/
  | decode
  deriving Repr, DecidableEq

namespace WorkloadKind

def key : WorkloadKind → String
  | .prefill => "prefill"
  | .decode => "decode"

def label : WorkloadKind → String
  | .prefill => "PREFILL"
  | .decode => "DECODE"

/-- The tokens that count for the throughput of the workload. -/
def measuredTokens (kind : WorkloadKind) (tally : Tally) : Nat :=
  match kind with
  | .prefill => tally.promptTokens
  | .decode => tally.completionTokens

def tokensPerSecond (kind : WorkloadKind) (tally : Tally) : Float :=
  match kind with
  | .prefill => tally.promptRate
  | .decode => tally.completionRate

end WorkloadKind

structure Workload where
  kind : WorkloadKind
  messages : List Chat.Message
  maxTokens : Nat
  /-- How long one attempt may take. -/
  timeout : Span
  deriving Repr, DecidableEq

namespace Workload

def prefillPrompt : String :=
  String.join (List.replicate 100 "The quick brown fox jumps over the lazy dog. ")

def decodePrompt : String := "Write a detailed essay about the history of artificial intelligence."

def prefill : Workload := ⟨.prefill, [.user prefillPrompt], 1, .ofSeconds 120⟩

def decode (maxNewTokens : Nat) : Workload :=
  ⟨.decode, [.user decodePrompt], maxNewTokens, .ofSeconds 300⟩

/-- Another timeout, unless it is zero. -/
def withTimeout (workload : Workload) (timeout : Span) : Workload :=
  if timeout = .zero then workload else { workload with timeout }

def request (workload : Workload) (model : String) : Chat.Request :=
  .deterministic model workload.messages workload.maxTokens

end Workload

end InferenceBench
