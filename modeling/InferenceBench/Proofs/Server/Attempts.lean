import InferenceBench.Server.Dispatcher
import InferenceBench.Server.Script
import Mathlib.Data.List.Basic

/-! # The attempts of a request

The replies alone fix how a request goes. It is sent up to the first reply that settles it, or as
often as the policy allows; after every attempt but the last the dispatcher waits as the policy
says; and the last reply is the one that the outcome tells about.
-/

namespace InferenceBench

/-- The reply to each attempt, counted from one, and how long it took. -/
abbrev Replies := Nat → Reply × Span

/-- What was sent so far, and what a client did in the order in which it did it. -/
structure Transcript where
  sent : Nat
  actions : List Action

namespace Transcript

def start : Transcript := ⟨0, []⟩

/-- A server that replies as foretold. Nobody asks it for anything but completions. -/
def connection (replies : Replies) : Connection (StateM Transcript) :=
  { post := fun url body timeout => modifyGet fun transcript =>
      let reply := replies (transcript.sent + 1)
      (reply, ⟨transcript.sent + 1,
        transcript.actions ++ [.asked (.post body) url timeout reply.1]⟩)
    get := fun url timeout => modifyGet fun transcript =>
      (.closed, { transcript with
        actions := transcript.actions ++ [.asked .get url timeout .closed] })
    sleep := fun span => modify fun transcript =>
      { transcript with actions := transcript.actions ++ [.slept span] } }

/-- Events leave no mark. -/
def ignore (_ : Event) : StateM Transcript Unit := pure ()

/-- A request that is dispatched to this server. -/
def dispatch (replies : Replies) (dispatcher : Dispatcher) (requestId : Nat)
    (request : Chat.Request) (timeout : Span) : Outcome × Transcript :=
  ((dispatcher.dispatch (connection replies) ignore requestId request timeout).run start).run

end Transcript

/-! ## Replies that settle a request -/

/-- A success with a readable response. -/
def Reply.Accepts (reply : Reply) (response : Chat.Response) : Prop :=
  ∃ status body, reply = .answer status body ∧ (200 ≤ status ∧ status < 300) ∧
    Chat.Response.ofBody? body = some response

/-- Whether no other attempt follows a reply: it is accepted, or its status is neither one of
success nor worth another attempt. -/
def RetryPolicy.settles (policy : RetryPolicy) : Reply → Bool
  | .answer status body =>
    if 200 ≤ status ∧ status < 300 then (Chat.Response.ofBody? body).isSome
    else !policy.retryableStatuses.contains status
  | .brokenBody _ | .closed | .refused | .timedOut => false

theorem isSuccess_eq_true {status : Nat} :
    isSuccess status = true ↔ 200 ≤ status ∧ status < 300 := by
  simp [isSuccess]

theorem judge_eq_ok {reply : Reply} {url : Url} {response : Chat.Response} :
    reply.judge url = .ok response ↔ reply.Accepts response := by
  cases reply with
  | answer status body =>
      by_cases success : isSuccess status = true
      · cases read : Chat.Response.ofBody? body <;>
          simp [Reply.judge, Reply.Accepts, success, read, isSuccess_eq_true.mp success]
      · have failure := mt isSuccess_eq_true.mpr success
        simp [Reply.judge, Reply.Accepts, success, failure]
  | brokenBody | closed | refused | timedOut => simp [Reply.judge, Reply.Accepts]

/-- A reply that was judged a failure settles the request unless the dispatcher tries again. -/
theorem settles_of_error {dispatcher : Dispatcher} {reply : Reply} {error : AttemptError}
    {url : Url} (judged : reply.judge url = .error error) :
    dispatcher.retry.settles reply = !dispatcher.mayRetry error := by
  cases reply with
  | answer status body =>
      by_cases success : isSuccess status = true
      · cases read : Chat.Response.ofBody? body with
        | some response => simp [Reply.judge, success, read] at judged
        | none =>
            obtain rfl : AttemptError.body = error := by
              simpa [Reply.judge, success, read] using judged
            simp [RetryPolicy.settles, isSuccess_eq_true.mp success, read, Dispatcher.mayRetry]
      · obtain rfl : AttemptError.ofStatus status body = error := by
          simpa [Reply.judge, success] using judged
        simp [RetryPolicy.settles, mt isSuccess_eq_true.mpr success, AttemptError.ofStatus,
          Dispatcher.mayRetry, RetryPolicy.isRetryable]
  | brokenBody | closed | refused | timedOut =>
      obtain rfl := Except.error.inj judged
      rfl

theorem settles_of_accepts {policy : RetryPolicy} {reply : Reply} {response : Chat.Response}
    (accepts : reply.Accepts response) : policy.settles reply = true := by
  obtain ⟨status, body, rfl, success, read⟩ := accepts
  simp [RetryPolicy.settles, success, read]

theorem failureText_eq (attempt : Nat) (error : AttemptError) :
    Dispatcher.failureText attempt error =
      if error = .timedOut ∧ 1 < attempt then
        "timed out after " ++ String.ofList (Nat.toDigits 10 attempt) ++ " attempts"
      else error.message := by
  cases error <;> simp [Dispatcher.failureText]

/-! ## The last attempt -/

namespace RetryPolicy

/-- The first of some attempts whose reply settles the request, or else the last of them. -/
def lastFrom (policy : RetryPolicy) (replies : Replies) (attempt retries : Nat) : Nat :=
  ((List.range' attempt (retries + 1)).find? fun k => policy.settles (replies k).1).getD
    (attempt + retries)

/-- The attempt that settles a request first, or the last one that the policy allows. -/
def lastAttempt (policy : RetryPolicy) (replies : Replies) : Nat :=
  ((List.range' 1 policy.maxAttempts).find? fun k => policy.settles (replies k).1).getD
    policy.maxAttempts

variable {policy : RetryPolicy} {replies : Replies} {attempt : Nat}

theorem lastFrom_zero : policy.lastFrom replies attempt 0 = attempt := by
  cases settled : policy.settles (replies attempt).1 <;> simp [lastFrom, settled]

theorem lastFrom_of_settles (settled : policy.settles (replies attempt).1 = true)
    (retries : Nat) : policy.lastFrom replies attempt retries = attempt := by
  simp [lastFrom, List.range'_succ, settled]

theorem lastFrom_succ (unsettled : policy.settles (replies attempt).1 = false) (retries : Nat) :
    policy.lastFrom replies attempt (retries + 1) =
      policy.lastFrom replies (attempt + 1) retries := by
  rw [lastFrom, List.range'_succ, List.find?_cons_of_neg (by simp [unsettled]), lastFrom,
    Nat.add_right_comm, Nat.add_assoc attempt retries 1]

theorem le_lastFrom (policy : RetryPolicy) (replies : Replies) (attempt retries : Nat) :
    attempt ≤ policy.lastFrom replies attempt retries := by
  cases found : (List.range' attempt (retries + 1)).find? fun k => policy.settles (replies k).1 with
  | none => simp [lastFrom, found]
  | some k =>
      have := (List.mem_range'_1.mp (List.mem_of_find?_eq_some found)).1
      simpa [lastFrom, found] using this

end RetryPolicy

/-! ## The run -/

namespace Transcript

variable {replies : Replies} {dispatcher : Dispatcher} {requestId : Nat} {body : List Char}
  {timeout : Span}

/-- The attempts from one to another: a wait stands between each two of them. -/
def exchanges (replies : Replies) (dispatcher : Dispatcher) (body : List Char) (timeout : Span)
    (first last : Nat) : List Action :=
  (List.range' first (last - first)).flatMap (fun k =>
    [.asked (.post body) dispatcher.endpoint timeout (replies k).1,
      .slept (dispatcher.retry.delayAfter k)]) ++
  [.asked (.post body) dispatcher.endpoint timeout (replies last).1]

/-- What the outcome tells about the last attempt. -/
def outcomeAt (replies : Replies) (dispatcher : Dispatcher) (requestId last : Nat) : Outcome :=
  match (replies last).1.judge dispatcher.endpoint with
  | .ok response => .succeeded requestId response.promptTokens response.completionTokens
      (replies last).2 last
  | .error error => .failed requestId (Dispatcher.failureText last error) last

theorem outcomeAt_of_accepts {last : Nat} {response : Chat.Response}
    (accepts : (replies last).1.Accepts response) :
    outcomeAt replies dispatcher requestId last =
      .succeeded requestId ((response.usage.map (·.promptTokens)).getD 0)
        ((response.usage.map (·.completionTokens)).getD 0) (replies last).2 last := by
  rw [outcomeAt, judge_eq_ok.mpr accepts]
  cases usage : response.usage <;>
    simp [Chat.Response.promptTokens, Chat.Response.completionTokens, usage]

variable (dispatcher requestId) in
theorem outcomeAt_of_not_accepts {last : Nat}
    (fails : ∀ response, ¬ (replies last).1.Accepts response) :
    ∃ error, (replies last).1.judge dispatcher.endpoint = .error error ∧
      outcomeAt replies dispatcher requestId last =
        .failed requestId (Dispatcher.failureText last error) last := by
  cases judged : (replies last).1.judge dispatcher.endpoint with
  | ok response => exact absurd (judge_eq_ok.mp judged) (fails response)
  | error error => exact ⟨error, rfl, by rw [outcomeAt, judged]⟩

theorem exchanges_self (attempt : Nat) :
    exchanges replies dispatcher body timeout attempt attempt =
      [.asked (.post body) dispatcher.endpoint timeout (replies attempt).1] := by
  simp [exchanges]

theorem exchanges_succ {attempt last : Nat} (later : attempt + 1 ≤ last) :
    exchanges replies dispatcher body timeout attempt last =
      .asked (.post body) dispatcher.endpoint timeout (replies attempt).1 ::
        .slept (dispatcher.retry.delayAfter attempt) ::
        exchanges replies dispatcher body timeout (attempt + 1) last := by
  obtain ⟨more, rfl⟩ := Nat.exists_eq_add_of_le later
  have count : attempt + 1 + more - attempt = more + 1 := by omega
  simp [exchanges, count, List.range'_succ]

@[simp] theorem post_run (url : Url) (transcript : Transcript) :
    ((connection replies).post url body timeout).run transcript =
      pure (replies (transcript.sent + 1), ⟨transcript.sent + 1, transcript.actions ++
        [.asked (.post body) url timeout (replies (transcript.sent + 1)).1]⟩) := rfl

@[simp] theorem sleep_run (span : Span) (transcript : Transcript) :
    ((connection replies).sleep span).run transcript =
      pure ((), { transcript with actions := transcript.actions ++ [.slept span] }) := rfl

@[simp] theorem ignore_run (event : Event) (transcript : Transcript) :
    (ignore event).run transcript = pure ((), transcript) := rfl

variable (replies dispatcher requestId body timeout) in
theorem attemptsFrom_run (attempt retries : Nat) (actions : List Action) :
    (dispatcher.attemptsFrom (connection replies) ignore requestId body timeout (attempt + 1)
        retries).run ⟨attempt, actions⟩ =
      let last := dispatcher.retry.lastFrom replies (attempt + 1) retries
      pure (outcomeAt replies dispatcher requestId last,
        ⟨last, actions ++ exchanges replies dispatcher body timeout (attempt + 1) last⟩) := by
  -- by induction on the attempts that are left: each of them either settles the request or hands
  -- it on to the next
  induction retries generalizing attempt actions with
  | zero =>
      rw [RetryPolicy.lastFrom_zero]
      cases judged : (replies (attempt + 1)).1.judge dispatcher.endpoint with
      | ok response =>
          simp [Dispatcher.attemptsFrom, Dispatcher.attemptsFrom.accept, outcomeAt, exchanges_self,
            judged]
      | error error => simp [Dispatcher.attemptsFrom, outcomeAt, exchanges_self, judged]
  | succ retries ih =>
      cases judged : (replies (attempt + 1)).1.judge dispatcher.endpoint with
      | ok response =>
          have settled : dispatcher.retry.settles (replies (attempt + 1)).1 = true :=
            settles_of_accepts (judge_eq_ok.mp judged)
          rw [RetryPolicy.lastFrom_of_settles settled]
          simp [Dispatcher.attemptsFrom, Dispatcher.attemptsFrom.accept, outcomeAt, exchanges_self,
            judged]
      | error error =>
          have settles : dispatcher.retry.settles (replies (attempt + 1)).1 =
              !dispatcher.mayRetry error := settles_of_error judged
          cases again : dispatcher.mayRetry error with
          | false =>
              rw [RetryPolicy.lastFrom_of_settles (by simp [settles, again])]
              simp [Dispatcher.attemptsFrom, outcomeAt, exchanges_self, judged, again]
          | true =>
              have unsettled : dispatcher.retry.settles (replies (attempt + 1)).1 = false := by
                simp [settles, again]
              have later := RetryPolicy.le_lastFrom dispatcher.retry replies (attempt + 1 + 1)
                retries
              rw [RetryPolicy.lastFrom_succ unsettled]
              simp [Dispatcher.attemptsFrom, judged, again, ih, exchanges_succ later]

end Transcript

/-! ## The policies of the library -/

/-- The usual policy, one with other attempts and delays, and each of these with other statuses. -/
inductive RetryPolicy.Configured : RetryPolicy → Prop where
  | standard : Configured .standard
  | ofAttempts {maxAttempts : Nat} {delays : List Span} {policy : RetryPolicy}
      (accepted : RetryPolicy.ofAttempts maxAttempts delays = .ok policy) : Configured policy
  | withRetryableStatuses {policy : RetryPolicy} (configured : Configured policy)
      (statuses : List Nat) : Configured (policy.withRetryableStatuses statuses)

namespace RetryPolicy.Configured

variable {policy : RetryPolicy}

theorem attempts_and_delays (configured : policy.Configured) :
    0 < policy.maxAttempts ∧ (1 < policy.maxAttempts → policy.delays ≠ []) := by
  induction configured with
  | standard => exact ⟨by decide, fun _ => by decide⟩
  | @ofAttempts maxAttempts delays policy accepted =>
      unfold RetryPolicy.ofAttempts at accepted
      split at accepted
      · simp at accepted
      · next some_attempts =>
          split at accepted
          · simp at accepted
          · next some_delays =>
              obtain rfl := Except.ok.inj accepted
              refine ⟨Nat.pos_of_ne_zero some_attempts, ?_⟩
              intro several empty
              have empty : delays = [] := empty
              exact some_delays (by simpa [empty] using several)
  | withRetryableStatuses _ statuses ih => exact ih

/-- A wait is a delay of the policy: the one with the number of the attempt, and the last one
from there on. -/
theorem delay (configured : policy.Configured) {attempt : Nat} (first : 1 ≤ attempt)
    (more : attempt < policy.maxAttempts) :
    policy.delays[min attempt policy.delays.length - 1]? = some (policy.delayAfter attempt) := by
  have nonempty := configured.attempts_and_delays.2 (Nat.lt_of_le_of_lt first more)
  have positive := List.length_pos_of_ne_nil nonempty
  by_cases within : attempt ≤ policy.delays.length
  · rw [Nat.min_eq_left within, delayAfter, List.getElem?_eq_getElem (by omega)]
    simp
  · have beyond : policy.delays[attempt - 1]? = none := List.getElem?_eq_none (by omega)
    rw [Nat.min_eq_right (by omega), delayAfter, beyond, Option.none_or,
      ← List.getLast?_eq_getElem?, List.getLast?_eq_getLast_of_ne_nil nonempty, Option.getD_some]

end RetryPolicy.Configured

theorem RetryPolicy.lastAttempt_eq {policy : RetryPolicy} (some_attempts : 0 < policy.maxAttempts)
    (replies : Replies) :
    policy.lastAttempt replies = policy.lastFrom replies 1 (policy.maxAttempts - 1) := by
  rw [lastAttempt, lastFrom, Nat.sub_add_cancel some_attempts, Nat.add_sub_cancel' some_attempts]

theorem RetryPolicy.lastAttempt_le (policy : RetryPolicy) (replies : Replies) :
    policy.lastAttempt replies ≤ policy.maxAttempts := by
  unfold lastAttempt
  cases found : (List.range' 1 policy.maxAttempts).find? fun k => policy.settles (replies k).1 with
  | none => exact Nat.le_refl _
  | some k =>
      have within := (List.mem_range'_1.mp (List.mem_of_find?_eq_some found)).2
      rw [Option.getD_some]
      omega

theorem Transcript.dispatch_eq {dispatcher : Dispatcher}
    (some_attempts : 0 < dispatcher.retry.maxAttempts) (replies : Replies) (requestId : Nat)
    (request : Chat.Request) (timeout : Span) :
    dispatch replies dispatcher requestId request timeout =
      let last := dispatcher.retry.lastAttempt replies
      (outcomeAt replies dispatcher requestId last,
        ⟨last, exchanges replies dispatcher request.body timeout 1 last⟩) := by
  have run := attemptsFrom_run replies dispatcher requestId request.body timeout 0
    (dispatcher.retry.maxAttempts - 1) []
  rw [RetryPolicy.lastAttempt_eq some_attempts]
  exact congrArg Id.run run

/-- A request is sent up to the first reply that settles it, and as often as the policy allows if
no reply does. Between two attempts the dispatcher waits for the delay that the policy has for
the first of them, and after the last attempt it does not wait. The outcome tells about the last
reply: it has the tokens of its response, or the reason why there is none. -/
theorem dispatch_by_replies {policy : RetryPolicy} (configured : policy.Configured)
    (endpoint : Url) (replies : Replies) (requestId : Nat) (request : Chat.Request)
    (timeout : Span) :
    let last := policy.lastAttempt replies
    let sent (attempt : Nat) : Action :=
      .asked (.post request.body) endpoint timeout (replies attempt).1
    let run := Transcript.dispatch replies ⟨endpoint, policy⟩ requestId request timeout
    (1 ≤ last ∧ last ≤ policy.maxAttempts) ∧
    run.2.sent = last ∧
    run.2.actions =
      (List.range' 1 (last - 1)).flatMap (fun attempt =>
        [sent attempt, .slept (policy.delayAfter attempt)]) ++ [sent last] ∧
    (∀ attempt, 1 ≤ attempt → attempt < last →
      policy.delays[min attempt policy.delays.length - 1]? = some (policy.delayAfter attempt)) ∧
    (∀ response, (replies last).1.Accepts response → run.1 =
      { requestId
        success := true
        promptTokens := (response.usage.map (·.promptTokens)).getD 0
        completionTokens := (response.usage.map (·.completionTokens)).getD 0
        latency := (replies last).2
        error := none
        attempts := last }) ∧
    ((∀ response, ¬ (replies last).1.Accepts response) →
      ∃ error, (replies last).1.judge endpoint = .error error ∧ run.1 =
        { requestId
          success := false
          promptTokens := 0
          completionTokens := 0
          latency := .zero
          error := some (if error = .timedOut ∧ 1 < last then
              "timed out after " ++ String.ofList (Nat.toDigits 10 last) ++ " attempts"
            else error.message)
          attempts := last }) := by
  intro last sent run
  obtain ⟨some_attempts, -⟩ := configured.attempts_and_delays
  have finished : run = (Transcript.outcomeAt replies ⟨endpoint, policy⟩ requestId last,
      ⟨last, Transcript.exchanges replies ⟨endpoint, policy⟩ request.body timeout 1 last⟩) :=
    Transcript.dispatch_eq some_attempts replies requestId request timeout
  have first : 1 ≤ last := by
    have := policy.le_lastFrom replies 1 (policy.maxAttempts - 1)
    rwa [← policy.lastAttempt_eq some_attempts] at this
  have within : last ≤ policy.maxAttempts := policy.lastAttempt_le replies
  rw [finished]
  refine ⟨⟨first, within⟩, rfl, rfl, ?_, ?_, ?_⟩
  · intro attempt positive earlier
    exact configured.delay positive (Nat.lt_of_lt_of_le earlier within)
  · intro response accepts
    exact Transcript.outcomeAt_of_accepts accepts
  · intro fails
    obtain ⟨error, judged, outcome⟩ :=
      Transcript.outcomeAt_of_not_accepts ⟨endpoint, policy⟩ requestId fails
    refine ⟨error, judged, outcome.trans ?_⟩
    rw [failureText_eq]
    rfl

/-- The server is busy at first and then does not answer any more. -/
def busyThenSilent : Replies
  | 1 => (.answer 503 [], ⟨5⟩)
  | _ => (.timedOut, ⟨7⟩)

def localEndpoint : Url :=
  { scheme := .http, userinfo := [], host := ['h'], port := some 8000, path := [['v', '1']]
    query := none, fragment := none }

theorem dispatch_by_replies_busyThenSilent :
    RetryPolicy.standard.Configured ∧
      let request := Chat.Request.deterministic "m" [.user "hi"] 1
      let run := Transcript.dispatch busyThenSilent ⟨localEndpoint, .standard⟩ 7 request
        (.ofSeconds 1)
      run.2.sent = 3 ∧
        run.2.actions =
          [.asked (.post request.body) localEndpoint (.ofSeconds 1) (.answer 503 []),
            .slept (.ofSeconds 2),
            .asked (.post request.body) localEndpoint (.ofSeconds 1) .timedOut,
            .slept (.ofSeconds 4),
            .asked (.post request.body) localEndpoint (.ofSeconds 1) .timedOut] ∧
        run.1.error = some "timed out after 3 attempts" := by
  have last : RetryPolicy.standard.lastAttempt busyThenSilent = 3 := by decide
  obtain ⟨-, sent, actions, -, -, fails⟩ := dispatch_by_replies .standard localEndpoint
    busyThenSilent 7 (.deterministic "m" [.user "hi"] 1) (.ofSeconds 1)
  rw [last] at sent actions fails
  obtain ⟨error, judged, outcome⟩ := fails (by simp [Reply.Accepts, busyThenSilent])
  obtain rfl := Except.error.inj judged
  exact ⟨.standard, sent, actions, by rw [outcome]; rfl⟩

end InferenceBench
