import InferenceBench.Time.Span

/-! # Outcomes of requests -/

namespace InferenceBench

/-- What became of one request, all its attempts included. -/
structure Outcome where
  requestId : Nat
  success : Bool
  promptTokens : Nat
  completionTokens : Nat
  /-- How long the accepted attempt took; zero for a failure. -/
  latency : Span
  error : Option String
  attempts : Nat
  deriving Repr, DecidableEq

namespace Outcome

def succeeded (requestId promptTokens completionTokens : Nat) (latency : Span)
    (attempts : Nat) : Outcome :=
  ⟨requestId, true, promptTokens, completionTokens, latency, none, attempts⟩

def failed (requestId : Nat) (error : String) (attempts : Nat) : Outcome :=
  ⟨requestId, false, 0, 0, .zero, some error, attempts⟩

end Outcome

end InferenceBench
