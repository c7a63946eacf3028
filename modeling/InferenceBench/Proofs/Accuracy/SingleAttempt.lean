import InferenceBench.Accuracy.Client
import InferenceBench.Proofs.Server.Attempts

/-! # Completions and single attempts

The client that collects responses sends each request once, as a dispatcher does whose policy allows
no second attempt. The two of them take the same replies for answers, and they name the same reason
for taking none: a timeout is only told with a number of attempts where there were several.
-/

namespace InferenceBench

namespace Transcript

/-- The completion of a prompt that is asked of this server. -/
def generate (replies : Replies) (client : AccuracyClient) (prompt : String) :
    Except AttemptError String × Transcript :=
  ((client.generate (connection replies) prompt).run start).run

theorem generate_eq (replies : Replies) (client : AccuracyClient) (prompt : String) :
    generate replies client prompt =
      (((replies 1).1.judge client.chatUrl).map fun response => response.firstContent?.getD "",
        ⟨1, [.asked (.post (client.request prompt).body) client.chatUrl client.requestTimeout
          (replies 1).1]⟩) := rfl

/-- A policy without a second attempt makes every reply the last one. -/
theorem dispatch_once {dispatcher : Dispatcher} (once : dispatcher.retry.maxAttempts ≤ 1)
    (replies : Replies) (requestId : Nat) (request : Chat.Request) (timeout : Span) :
    dispatch replies dispatcher requestId request timeout =
      (outcomeAt replies dispatcher requestId 1,
        ⟨1, [.asked (.post request.body) dispatcher.endpoint timeout (replies 1).1]⟩) := by
  have run := attemptsFrom_run replies dispatcher requestId request.body timeout 0 0 []
  rw [RetryPolicy.lastFrom_zero] at run
  rw [dispatch, Dispatcher.dispatch, Nat.sub_eq_zero_of_le once, ← exchanges_self]
  exact congrArg Id.run run

end Transcript

theorem failureText_once (error : AttemptError) :
    Dispatcher.failureText 1 error = error.message := by
  rw [failureText_eq, if_neg fun ⟨_, several⟩ => Nat.lt_irrefl 1 several]

/-- A client and a dispatcher without a second attempt send the same request, once, and judge the
reply alike. Both succeed if the reply is accepted, and both fail if it is not; then the reason of
the outcome is the message of the client's error. -/
theorem replies_judged_alike {policy : RetryPolicy} (once : policy.maxAttempts ≤ 1)
    (client : AccuracyClient) (replies : Replies) (requestId : Nat) (prompt : String) :
    let completion := Transcript.generate replies client prompt
    let attempt := Transcript.dispatch replies ⟨client.chatUrl, policy⟩ requestId
      (client.request prompt) client.requestTimeout
    (completion.2.actions = [.asked (.post (client.request prompt).body) client.chatUrl
        client.requestTimeout (replies 1).1] ∧
      attempt.2.actions = completion.2.actions) ∧
    ((∃ text, completion.1 = .ok text) ↔ attempt.1.success = true) ∧
    (attempt.1.success = true ↔ ∃ response, (replies 1).1.Accepts response) ∧
    ∀ error, completion.1 = .error error → attempt.1.error = some error.message := by
  intro completion attempt
  simp only [completion, attempt]
  rw [Transcript.generate_eq, Transcript.dispatch_once once]
  refine ⟨⟨rfl, rfl⟩, ?_⟩
  simp only [Transcript.outcomeAt]
  cases judged : (replies 1).1.judge client.chatUrl with
  | ok response =>
      have accepted : ∃ response, (replies 1).1.Accepts response :=
        ⟨response, judge_eq_ok.mp judged⟩
      refine ⟨iff_of_true ⟨_, rfl⟩ rfl, iff_of_true rfl accepted, ?_⟩
      rintro _ ⟨⟩
  | error error =>
      have refused : ¬ ∃ response, (replies 1).1.Accepts response := by
        rintro ⟨response, accepts⟩
        cases judged.symm.trans (judge_eq_ok.mpr accepts)
      refine ⟨iff_of_false ?_ Bool.false_ne_true, iff_of_false Bool.false_ne_true refused, ?_⟩
      · rintro ⟨_, ⟨⟩⟩
      · rintro _ ⟨⟩
        exact congrArg some (failureText_once error)

/-- A client of the local endpoint. -/
def localClient : AccuracyClient where
  healthUrl := localEndpoint
  chatUrl := localEndpoint
  model := "m"
  maxTokens := 5
  requestTimeout := .ofSeconds 120
  healthTimeout := .ofSeconds 10

/-- A status that is worth another attempt is told like any other one where there is none. -/
theorem replies_judged_alike_busy :
    let policy : RetryPolicy := { RetryPolicy.standard with maxAttempts := 1 }
    let attempt := Transcript.dispatch busyThenSilent ⟨localEndpoint, policy⟩ 7
      (localClient.request "hi") (.ofSeconds 120)
    policy.maxAttempts ≤ 1 ∧ attempt.2.actions.length = 1 ∧ attempt.1.success = false ∧
      attempt.1.error = some "HTTP 503: " := by
  intro policy attempt
  have once : policy.maxAttempts ≤ 1 := Nat.le_refl 1
  obtain ⟨⟨asked, same⟩, alike, -, reason⟩ :=
    replies_judged_alike once localClient busyThenSilent 7 "hi"
  refine ⟨once, ?_, ?_, reason _ rfl⟩
  · exact congrArg List.length (same.trans asked)
  · exact Bool.eq_false_iff.mpr fun success => nomatch alike.mpr success

end InferenceBench
