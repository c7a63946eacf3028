import InferenceBench.Time.Span

/-! # Retry policies

How often a request is sent before it counts as failed, how long to wait between two attempts,
and which statuses are worth another attempt. -/

namespace InferenceBench

structure RetryPolicy where
  /-- All attempts, the first one included. -/
  maxAttempts : Nat
  /-- The delay after each attempt; the last one repeats. -/
  delays : List Span
  retryableStatuses : List Nat
  deriving Repr, DecidableEq

/-- Why a policy makes no sense. -/
inductive RetryPolicyError where
  | noAttempts
  | noDelays (maxAttempts : Nat)
  deriving Repr, DecidableEq

def RetryPolicyError.message : RetryPolicyError → String
  | .noAttempts => "max_attempts must be greater than zero"
  | .noDelays maxAttempts =>
    "at least one retry delay is required when max_attempts is " ++
      String.ofList (Nat.toDigits 10 maxAttempts)

namespace RetryPolicy

/-- Three attempts, the second after two seconds and the third after four. -/
def standard : RetryPolicy :=
  ⟨3, [.ofSeconds 2, .ofSeconds 4, .ofSeconds 8], [404, 502, 503, 504]⟩

/-- The policy with the given attempts and delays, and the usual statuses. -/
def ofAttempts (maxAttempts : Nat) (delays : List Span) : Except RetryPolicyError RetryPolicy :=
  if maxAttempts = 0 then .error .noAttempts
  else if 1 < maxAttempts && delays.isEmpty then .error (.noDelays maxAttempts)
  else .ok { standard with maxAttempts, delays }

def withRetryableStatuses (policy : RetryPolicy) (statuses : List Nat) : RetryPolicy :=
  { policy with retryableStatuses := statuses }

/-- The delay after an attempt, counted from one. -/
def delayAfter (policy : RetryPolicy) (attempt : Nat) : Span :=
  (policy.delays[attempt - 1]?.or policy.delays.getLast?).getD .zero

def isRetryable (policy : RetryPolicy) (status : Nat) : Bool :=
  policy.retryableStatuses.contains status

end RetryPolicy

end InferenceBench
