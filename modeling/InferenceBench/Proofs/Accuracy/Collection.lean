import InferenceBench.Accuracy.Client
import InferenceBench.Proofs.Server.Attempts

/-! # The responses to prompts

A client goes through its prompts one by one. For each of them it sends one request and waits for
one reply, whatever the replies before it were, so that after some prompts it has sent as many
requests as it has responses. A prompt whose reply is not accepted gets an empty response.
-/

namespace InferenceBench

/-- What a server replies: to the requests with a body, counted from one, and to all others. -/
structure Foretold where
  replies : Replies
  health : Reply

namespace Transcript

/-- A server that replies as foretold to requests of both kinds. -/
def server (foretold : Foretold) : Connection (StateM Transcript) :=
  { connection foretold.replies with
    get := fun url timeout => modifyGet fun transcript =>
      (foretold.health, { transcript with
        actions := transcript.actions ++ [.asked .get url timeout foretold.health] }) }

def tell (event : Event) : StateM Transcript Unit := modify fun transcript =>
  { transcript with actions := transcript.actions ++ [.told event] }

/-- The responses to prompts, collected from this server. -/
def collect (foretold : Foretold) (client : AccuracyClient) (prompts : List String)
    (now : Instant) (transcript : Transcript) : ResponseSet × Transcript :=
  ((client.collect (server foretold) tell prompts now).run transcript).run

@[simp]
theorem server_post (foretold : Foretold) (url : Url) (body : List Char) (timeout : Span)
    (transcript : Transcript) :
    ((server foretold).post url body timeout).run transcript =
      pure (foretold.replies (transcript.sent + 1), ⟨transcript.sent + 1, transcript.actions ++
        [.asked (.post body) url timeout (foretold.replies (transcript.sent + 1)).1]⟩) := rfl

@[simp]
theorem tell_run (event : Event) (transcript : Transcript) :
    (tell event).run transcript =
      pure ((), { transcript with actions := transcript.actions ++ [.told event] }) := rfl

end Transcript

/-! ## Completions -/

/-- The response that a reply gives: the text of the first choice if the reply is accepted. -/
def Reply.completion (url : Url) (reply : Reply) : String :=
  match reply.judge url with
  | .ok response => response.firstContent?.getD ""
  | .error _ => ""

theorem completion_of_accepts {reply : Reply} {response : Chat.Response} (url : Url)
    (accepts : reply.Accepts response) :
    reply.completion url = response.firstContent?.getD "" := by
  rw [Reply.completion, judge_eq_ok.mpr accepts]

theorem completion_of_not_accepts {reply : Reply} (url : Url)
    (fails : ∀ response, ¬ reply.Accepts response) : reply.completion url = "" := by
  unfold Reply.completion
  cases judged : reply.judge url with
  | ok response => exact absurd (judge_eq_ok.mp judged) (fails response)
  | error error => rfl

namespace AccuracyClient

variable (client : AccuracyClient) (foretold : Foretold)

/-- The response to a prompt that is sent as the request with this number. -/
def answer (number : Nat) (prompt : String) : PromptResponse :=
  ⟨prompt, (foretold.replies number).1.completion client.chatUrl⟩

/-- What the client tells about a reply to the prompt with this number. -/
def reports (total number : Nat) (reply : Reply) : List Event :=
  (match reply.judge client.chatUrl with
    | .ok _ => []
    | .error error => [.generationFailed number error.message]) ++
  [.sampleDone number total (previewText (reply.completion client.chatUrl))]

/-- What the client does for a prompt: it sends one request. -/
def exchange (total number : Nat) (prompt : String) : List Action :=
  .asked (.post (client.request prompt).body) client.chatUrl client.requestTimeout
      (foretold.replies number).1 ::
    (client.reports total number (foretold.replies number).1).map .told

theorem sample_run (total sent : Nat) (prompt : String) (actions : List Action) :
    (client.sample (Transcript.server foretold) Transcript.tell total (sent + 1) prompt).run
        ⟨sent, actions⟩ =
      pure (client.answer foretold (sent + 1) prompt,
        ⟨sent + 1, actions ++ client.exchange foretold total (sent + 1) prompt⟩) := by
  cases judged : (foretold.replies (sent + 1)).1.judge client.chatUrl with
  | ok response =>
      simp [sample, generate, answer, exchange, reports, Reply.completion, judged, Except.map]
  | error error =>
      simp [sample, generate, answer, exchange, reports, Reply.completion, judged, Except.map]

/-- The responses to prompts that are sent as the requests from this number on. -/
def answers (number : Nat) (prompts : List String) : List PromptResponse :=
  (prompts.zipIdx number).map fun (prompt, number) => client.answer foretold number prompt

/-- What the client does for prompts that are sent as the requests from this number on. -/
def exchanges (total number : Nat) (prompts : List String) : List Action :=
  (prompts.zipIdx number).flatMap fun (prompt, number) =>
    client.exchange foretold total number prompt

@[simp]
theorem answers_nil (number : Nat) : client.answers foretold number [] = [] := rfl

@[simp]
theorem answers_cons (number : Nat) (prompt : String) (prompts : List String) :
    client.answers foretold number (prompt :: prompts) =
      client.answer foretold number prompt :: client.answers foretold (number + 1) prompts := rfl

@[simp]
theorem length_answers (number : Nat) (prompts : List String) :
    (client.answers foretold number prompts).length = prompts.length := by
  simp [answers]

@[simp]
theorem answers_eq_nil {number : Nat} {prompts : List String} :
    client.answers foretold number prompts = [] ↔ prompts = [] := by
  rw [← List.length_eq_zero_iff, length_answers, List.length_eq_zero_iff]

theorem answers_getElem? (number : Nat) (prompts : List String) (i : Nat) :
    (client.answers foretold number prompts)[i]? =
      prompts[i]?.map (client.answer foretold (number + i)) := by
  simp [answers, List.getElem?_map, List.getElem?_zipIdx, Option.map_map, Function.comp_def]

@[simp]
theorem exchanges_nil (total number : Nat) : client.exchanges foretold total number [] = [] := rfl

@[simp]
theorem exchanges_cons (total number : Nat) (prompt : String) (prompts : List String) :
    client.exchanges foretold total number (prompt :: prompts) =
      client.exchange foretold total number prompt ++
        client.exchanges foretold total (number + 1) prompts := rfl

theorem samplesFrom_run (total sent failed : Nat) (prompts : List String)
    (actions : List Action) :
    (client.samplesFrom (Transcript.server foretold) Transcript.tell total (sent + 1) failed
        prompts).run ⟨sent, actions⟩ =
      pure ((client.answers foretold (sent + 1) prompts,
          failed + (client.answers foretold (sent + 1) prompts).countP (·.response.isEmpty)),
        ⟨sent + prompts.length,
          actions ++ client.exchanges foretold total (sent + 1) prompts⟩) := by
  -- by induction on the prompts: each of them is sent as the next request, and the count of failed
  -- samples is that of the empty responses so far
  induction prompts generalizing sent failed actions with
  | nil => simp [samplesFrom]
  | cons prompt prompts ih =>
      by_cases empty : (client.answer foretold (sent + 1) prompt).response = "" <;>
        simp [samplesFrom, sample_run, ih, empty, Nat.add_assoc, Nat.add_comm 1]

end AccuracyClient

theorem Transcript.collect_eq (foretold : Foretold) (client : AccuracyClient)
    (prompts : List String) (now : Instant) (actions : List Action) :
    collect foretold client prompts now ⟨0, actions⟩ =
      (⟨client.model, now.text, prompts.length,
          (client.answers foretold 1 prompts).countP (·.response.isEmpty),
          client.answers foretold 1 prompts⟩,
        ⟨prompts.length, actions ++ client.exchanges foretold prompts.length 1 prompts⟩) := by
  have run := client.samplesFrom_run foretold prompts.length 0 0 prompts actions
  rw [Nat.zero_add, Nat.zero_add, Nat.zero_add] at run
  simp [collect, AccuracyClient.collect, run]

/-! ## Collecting inside a larger system -/

section Lift

variable {m n : Type → Type} [Monad m] [Monad n] [MonadLiftT m n] [LawfulMonadLiftT m n]

/-- The connection in a system of which its own is a part. -/
def Connection.lift (connection : Connection m) : Connection n where
  post url body timeout := liftM (connection.post url body timeout)
  get url timeout := liftM (connection.get url timeout)
  sleep span := liftM (connection.sleep span)

namespace AccuracyClient

variable (client : AccuracyClient) (connection : Connection m) (log : Event → m Unit)

theorem generate_lift (prompt : String) :
    client.generate (connection.lift : Connection n) prompt =
      liftM (client.generate connection prompt) := by
  simp [generate, Connection.lift]

theorem sample_lift (total number : Nat) (prompt : String) :
    client.sample (connection.lift : Connection n) (fun event => liftM (log event)) total number
        prompt = liftM (client.sample connection log total number prompt) := by
  simp only [sample, generate_lift, monadLift_bind]
  apply bind_congr
  intro result
  cases result with
  | ok text => simp
  | error error => simp

theorem samplesFrom_lift (total number failed : Nat) (prompts : List String) :
    client.samplesFrom (connection.lift : Connection n) (fun event => liftM (log event)) total
        number failed prompts =
      liftM (client.samplesFrom connection log total number failed prompts) := by
  induction prompts generalizing number failed with
  | nil => simp [samplesFrom]
  | cons prompt prompts ih => simp [samplesFrom, sample_lift, ih]

theorem collect_lift (prompts : List String) (now : Instant) :
    client.collect (connection.lift : Connection n) (fun event => liftM (log event)) prompts now =
      liftM (client.collect connection log prompts now) := by
  simp [collect, samplesFrom_lift]

end AccuracyClient

end Lift

end InferenceBench
