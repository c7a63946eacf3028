import InferenceBench.Event
import InferenceBench.Run.Outcome
import InferenceBench.Server.Attempt
import InferenceBench.Server.RetryPolicy

/-! # Dispatching requests

A request is sent until it is accepted, fails for good, or has used up its attempts. Between two
attempts the dispatcher waits as its policy says. Whatever happens, there is an outcome. -/

namespace InferenceBench

structure Dispatcher where
  endpoint : Url
  retry : RetryPolicy
  deriving Repr, DecidableEq

namespace Dispatcher

/-- Whether another attempt may help: always, unless the server refused with a status that is
not worth it. -/
def mayRetry (dispatcher : Dispatcher) : AttemptError → Bool
  | .status status _ => dispatcher.retry.isRetryable status
  | .timedOut | .transport _ | .body => true

/-- The reason of a failure whose last attempt was the given one. -/
def failureText (attempt : Nat) : AttemptError → String
  | .timedOut =>
    if 1 < attempt then
      "timed out after " ++ String.ofList (Nat.toDigits 10 attempt) ++ " attempts"
    else AttemptError.timedOut.message
  | error => error.message

variable {m : Type → Type} [Monad m]

/-- The attempts from the given one on, of which `retries` may follow it. -/
def attemptsFrom (dispatcher : Dispatcher) (connection : Connection m) (log : Event → m Unit)
    (requestId : Nat) (body : List Char) (timeout : Span) (attempt : Nat) :
    (retries : Nat) → m Outcome
  | 0 => do
    let (reply, latency) ← connection.post dispatcher.endpoint body timeout
    match reply.judge dispatcher.endpoint with
    | .ok response => accept response latency
    | .error error => pure (.failed requestId (failureText attempt error) attempt)
  | retries + 1 => do
    let (reply, latency) ← connection.post dispatcher.endpoint body timeout
    match reply.judge dispatcher.endpoint with
    | .ok response => accept response latency
    | .error error =>
      if dispatcher.mayRetry error then
        let delay := dispatcher.retry.delayAfter attempt
        log (.retrying requestId attempt delay.milliseconds error.message)
        connection.sleep delay
        attemptsFrom dispatcher connection log requestId body timeout (attempt + 1) retries
      else pure (.failed requestId (failureText attempt error) attempt)
where
  accept (response : Chat.Response) (latency : Span) : m Outcome := do
    log (.requestCompleted requestId attempt)
    pure (.succeeded requestId response.promptTokens response.completionTokens latency attempt)

/-- Sends a request; a policy without attempts counts as one attempt. -/
def dispatch (dispatcher : Dispatcher) (connection : Connection m) (log : Event → m Unit)
    (requestId : Nat) (request : Chat.Request) (timeout : Span) : m Outcome :=
  dispatcher.attemptsFrom connection log requestId request.body timeout 1
    (dispatcher.retry.maxAttempts - 1)

end Dispatcher

end InferenceBench
