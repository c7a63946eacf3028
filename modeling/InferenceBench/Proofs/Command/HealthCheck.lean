import InferenceBench.Proofs.Command.CollectResponses

/-! # Nothing is asked of a server that is not up

A collection checks the health of its server before it sends a prompt. The check refuses the
statuses of errors, a completion takes those of success, and some statuses are neither: with one of
these the check lets a collection begin, although no completion with such a status is taken.
-/

namespace InferenceBench

/-- The status that came back, whether or not the body did. -/
def Reply.status? : Reply → Option Nat
  | .answer status _ | .brokenBody status => some status
  | .closed | .refused | .timedOut => none

/-- A status of success came back. -/
def Reply.Succeeds (reply : Reply) : Prop :=
  ∃ status, reply.status? = some status ∧ isSuccess status = true

/-- A status that tells neither a success nor an error. -/
structure IsUndecided (status : Nat) : Prop where
  noSuccess : ¬ isSuccess status = true
  noError : ¬ (400 ≤ status ∧ status < 600)

theorem isHealthy_iff {reply : Reply} :
    AccuracyClient.isHealthy reply = true ↔
      ∃ status, reply.status? = some status ∧ ¬ (400 ≤ status ∧ status < 600) := by
  cases reply with
  | answer | brokenBody => simp [AccuracyClient.isHealthy, Reply.status?, imp_iff_not_or]
  | closed | refused | timedOut => simp [AccuracyClient.isHealthy, Reply.status?]

theorem isHealthy_iff_succeeds {reply : Reply}
    (decided : ∀ status, reply.status? = some status → ¬ IsUndecided status) :
    AccuracyClient.isHealthy reply = true ↔ reply.Succeeds := by
  rw [isHealthy_iff]
  constructor
  · rintro ⟨status, back, noError⟩
    refine ⟨status, back, ?_⟩
    by_contra noSuccess
    exact decided status back ⟨noSuccess, noError⟩
  · rintro ⟨status, back, success⟩
    have range := isSuccess_eq_true.mp success
    exact ⟨status, back, by omega⟩

/-- The statuses of success are those for which no body makes a completion fail by its status. -/
theorem isSuccess_iff_judge {status : Nat} (url : Url) :
    isSuccess status = true ↔ ∀ body code text,
      (Reply.answer status body).judge url ≠ .error (.status code text) := by
  constructor
  · intro success body code text
    cases read : Chat.Response.ofBody? body <;> simp [Reply.judge, success, read]
  · intro judged
    by_contra failure
    exact judged [] status ((Utf8.decodeLossy []).take keptBodyLength)
      (by simp [Reply.judge, failure, AttemptError.ofStatus])

/-- Every completion was asked for after a health check whose reply has this property. -/
def AskedAfter (healthy : Reply → Prop) (actions : List Action) : Prop :=
  ∀ before body url timeout reply after,
    actions = before ++ .asked (.post body) url timeout reply :: after →
    ∃ url timeout health, .asked .get url timeout health ∈ before ∧ healthy health

namespace AskedAfter

variable {healthy : Reply → Prop}

theorem imp {other : Reply → Prop} {actions : List Action} (asked : AskedAfter healthy actions)
    (weaker : ∀ health, healthy health → other health) : AskedAfter other actions := by
  intro before body url timeout reply after split
  obtain ⟨url, timeout, health, mem, holds⟩ := asked _ _ _ _ _ _ split
  exact ⟨url, timeout, health, mem, weaker health holds⟩

theorem nil : AskedAfter healthy [] := by
  intro before body url timeout reply after split
  simp at split

theorem of_get (url : Url) (timeout : Span) {health : Reply} {actions : List Action}
    (up : actions ≠ [] → healthy health) :
    AskedAfter healthy (.asked .get url timeout health :: actions) := by
  intro before body _ _ reply after split
  cases before with
  | nil => cases split
  | cons first before =>
      obtain ⟨rfl, rest⟩ := List.cons.inj split
      refine ⟨url, timeout, health, List.mem_cons_self, up ?_⟩
      simp [rest]

end AskedAfter

namespace Command.CollectResponses

/-- What a run says: nothing without a client, no more than the health check unless the server is
up, and then perhaps the prompts, in their order. -/
inductive Talk (foretold : Foretold) : List Action → Prop
  | nothing : Talk foretold []
  | greeting (client : AccuracyClient) : Talk foretold (greeted foretold client).actions
  | prompts (client : AccuracyClient) (list : List String)
      (up : AccuracyClient.isHealthy foretold.health = true) :
      Talk foretold ((greeted foretold client).actions ++
        client.exchanges foretold list.length 1 list)

theorem Talk.askedAfter {foretold : Foretold} {actions : List Action}
    (talk : Talk foretold actions) :
    AskedAfter (fun health => health = foretold.health ∧ AccuracyClient.isHealthy health = true)
      actions := by
  cases talk with
  | nothing => exact .nil
  | greeting client => exact .of_get _ _ fun asked => absurd rfl asked
  | prompts client list up => exact .of_get _ _ fun _ => ⟨rfl, up⟩

section Run

variable {foretold : Foretold} (command : CollectResponses) (now : Instant)
  (others : System (Breakable Session)) (disk : Disk)

theorem finish_transcript (set : ResponseSet) (session : Session) :
    (Program.outcome (command.finish (Session.system foretold now others) set)
      session).2.transcript = session.transcript := by
  obtain ⟨left, ends⟩ := outcome_finish now others command set session
  rw [ends]

theorem talk_perform :
    Talk foretold (command.perform foretold now others disk).2.transcript.actions := by
  -- by the places at which a run may stop before it comes to its prompts
  by_cases begins : ∃ client prompts, command.Begins foretold disk client prompts
  · obtain ⟨client, prompts, begins⟩ := begins
    rw [perform_of_begins now others begins, finish_transcript, greeted, Transcript.collect_eq]
    exact .prompts client prompts begins.up
  cases built : AccuracyClient.ofModel command.baseUrl command.model with
  | error error =>
      simp only [perform, run, built, Program.outcome_bind, Program.outcome_orStop,
        Except.mapError]
      exact .nothing
  | ok base =>
      have greets : Talk foretold
          [.asked .get base.healthUrl base.healthTimeout foretold.health] := .greeting base
      cases up : AccuracyClient.isHealthy foretold.health with
      | false => simpa [perform, run, built, Except.mapError, up, Transcript.start] using greets
      | true =>
          cases read : disk.files command.prompts with
          | none =>
              simpa [perform, run, built, Except.mapError, up, read, Transcript.start] using greets
          | some bytes =>
              cases loaded : readPrompts command.samples bytes with
              | error error =>
                  simpa [perform, run, built, Except.mapError, up, read, loaded, Transcript.start]
                    using greets
              | ok prompts =>
                  exact absurd ⟨_, prompts, by rw [built]; rfl, up, bytes, read, loaded⟩ begins

end Run

/-- Where the status of the reply to the health check is decided, the check goes well exactly for
the statuses of success, for which no completion fails by its status. So whatever the server does,
every completion of every run was asked for after such a reply. -/
theorem completions_after_success (foretold : Foretold)
    (decided : ∀ status, foretold.health.status? = some status → ¬ IsUndecided status) :
    (AccuracyClient.isHealthy foretold.health = true ↔ foretold.health.Succeeds) ∧
    (∀ url, foretold.health.Succeeds ↔ ∃ status, foretold.health.status? = some status ∧
      ∀ body code text, (Reply.answer status body).judge url ≠ .error (.status code text)) ∧
    ∀ (command : CollectResponses) (now : Instant) (others : System (Breakable Session))
      (disk : Disk),
      AskedAfter (fun health => health = foretold.health ∧ health.Succeeds)
        (command.perform foretold now others disk).2.transcript.actions := by
  refine ⟨isHealthy_iff_succeeds decided, ?_, ?_⟩
  · intro url
    simp only [Reply.Succeeds, isSuccess_iff_judge url]
  · intro command now others disk
    apply (command.talk_perform now others disk).askedAfter.imp
    rintro health ⟨rfl, up⟩
    exact ⟨rfl, (isHealthy_iff_succeeds decided).mp up⟩

theorem begins_quiz {foretold : Foretold}
    (up : AccuracyClient.isHealthy foretold.health = true) :
    quizCommand.Begins foretold quizDisk quizClient ["a", "b"] where
  made := by decide +kernel
  up
  loaded := ⟨_, rfl, by decide +kernel⟩

theorem quiz_transcript {foretold : Foretold}
    (up : AccuracyClient.isHealthy foretold.health = true) :
    (quizCommand.perform foretold ⟨0, 0⟩ Session.idle quizDisk).2.transcript =
      ⟨2, (greeted foretold quizClient).actions ++
        quizClient.exchanges foretold 2 1 ["a", "b"]⟩ := by
  rw [perform_of_begins ⟨0, 0⟩ Session.idle (begins_quiz up), finish_transcript, greeted,
    Transcript.collect_eq]
  rfl

theorem completions_after_success_speechless :
    (∀ status, speechless.health.status? = some status → ¬ IsUndecided status) ∧
      (quizCommand.perform speechless ⟨0, 0⟩ Session.idle quizDisk).2.transcript.sent = 2 ∧
      AskedAfter (fun health => health = .answer 200 [] ∧ health.Succeeds)
        (quizCommand.perform speechless ⟨0, 0⟩ Session.idle quizDisk).2.transcript.actions := by
  have decided : ∀ status, speechless.health.status? = some status → ¬ IsUndecided status := by
    rintro _ ⟨⟩ undecided
    exact undecided.noSuccess rfl
  refine ⟨decided, ?_, (completions_after_success speechless decided).2.2 _ _ _ _⟩
  rw [quiz_transcript rfl]

/-- A server that answers the health check with a status of neither kind. -/
def unmodified : Foretold := { speechless with health := .answer 304 [] }

/-- The prompts are sent, although the health check was not answered by a success. -/
theorem completion_without_success :
    ¬ unmodified.health.Succeeds ∧ AccuracyClient.isHealthy unmodified.health = true ∧
      ¬ AskedAfter Reply.Succeeds
        (quizCommand.perform unmodified ⟨0, 0⟩ Session.idle quizDisk).2.transcript.actions := by
  have fails : ¬ unmodified.health.Succeeds := by
    rintro ⟨_, ⟨⟩, success⟩
    exact absurd success (by decide)
  refine ⟨fails, rfl, fun asked => ?_⟩
  rw [quiz_transcript rfl] at asked
  obtain ⟨_, _, health, mem, success⟩ := asked [_] _ _ _ _ _ rfl
  obtain ⟨-, -, -, rfl⟩ := Action.asked.inj (List.mem_singleton.mp mem)
  exact fails success

end Command.CollectResponses

end InferenceBench
