import InferenceBench.Command.CollectResponses
import InferenceBench.Proofs.Chat.Message
import InferenceBench.Proofs.Command.Session

/-! # When a collection fails

A run that gets as far as collecting responses asks for one completion of each prompt. Once the
responses are saved, it ends as a failure exactly if there were prompts and none of them got a
response.
-/

namespace InferenceBench.Command

/-- How a run ends that has collected and saved these responses. -/
def verdictOf (set : ResponseSet) : Verdict :=
  if 0 < set.samples && set.failedSamples = set.samples then .failure else .success

theorem countP_isEmpty (responses : List PromptResponse) :
    responses.countP (·.response.isEmpty) =
      (responses.filter fun response => response.response = "").length := by
  rw [List.countP_eq_length_filter]
  apply congrArg List.length
  apply List.filter_congr
  intro response _
  rw [Bool.eq_iff_iff, String.isEmpty_iff, decide_eq_true_eq]

theorem verdictOf_eq_failure {set : ResponseSet} (samples : set.samples = set.responses.length)
    (failed : set.failedSamples =
      (set.responses.filter fun response => response.response = "").length) :
    verdictOf set = .failure ↔
      set.responses ≠ [] ∧ ∀ response ∈ set.responses, response.response = "" := by
  have all : set.failedSamples = set.samples ↔
      ∀ response ∈ set.responses, response.response = "" := by
    rw [failed, samples, List.length_filter_eq_length_iff]
    simp only [decide_eq_true_eq]
  have some : 0 < set.samples ↔ set.responses ≠ [] := by rw [samples, List.length_pos_iff]
  unfold verdictOf
  split
  · next empty => simpa [all, some] using empty
  · next answered => simpa [all, some] using answered

namespace CollectResponses

/-- A run of the program on a machine where nothing was said before. -/
def perform (command : CollectResponses) (foretold : Foretold) (now : Instant)
    (others : System (Breakable Session)) (disk : Disk) : Except Halt Verdict × Session :=
  Program.outcome (command.run (Session.system foretold now others)) ⟨disk, .start⟩

/-- What a run has when it begins to collect responses: a client, a server that tells that it is
up, and prompts. -/
structure Begins (command : CollectResponses) (foretold : Foretold) (disk : Disk)
    (client : AccuracyClient) (prompts : List String) : Prop where
  made : (AccuracyClient.ofModel command.baseUrl command.model).map
    (fun made => { made with maxTokens := command.maxTokens }) = .ok client
  up : AccuracyClient.isHealthy foretold.health = true
  loaded : ∃ bytes, disk.files command.prompts = some bytes ∧
    readPrompts command.samples bytes = .ok prompts

/-- What was said when a run begins to collect responses. -/
def greeted (foretold : Foretold) (client : AccuracyClient) : Transcript :=
  ⟨0, [.asked .get client.healthUrl client.healthTimeout foretold.health]⟩

/-- What a run does with its responses. -/
def finish (command : CollectResponses) (system : System (Breakable Session)) (set : ResponseSet) :
    Program (Breakable Session) Verdict := do
  system.save "failed to write " command.output set.tree.pretty
  system.sayLine (command.summary set)
  pure (verdictOf set)

section Run

variable {command : CollectResponses} {foretold : Foretold} {disk : Disk}
  {client : AccuracyClient} {prompts : List String} (now : Instant)
  (others : System (Breakable Session))

theorem perform_of_begins (begins : command.Begins foretold disk client prompts) :
    command.perform foretold now others disk =
      let collected := Transcript.collect foretold client prompts now (greeted foretold client)
      Program.outcome (command.finish (Session.system foretold now others) collected.1)
        ⟨disk, collected.2⟩ := by
  obtain ⟨made, up, bytes, read, loaded⟩ := begins
  cases built : AccuracyClient.ofModel command.baseUrl command.model with
  | error error => simp [built, Except.map] at made
  | ok base =>
      obtain rfl : { base with maxTokens := command.maxTokens } = client := by
        simpa [built, Except.map] using made
      let client := { base with maxTokens := command.maxTokens }
      let start : Session := ⟨disk, .start⟩
      let begun : Session := ⟨disk, greeted foretold client⟩
      have opened : Program.outcome (orStop AccuracyClientError.message
          (AccuracyClient.ofModel command.baseUrl command.model)) start = (.ok base, start) := by
        rw [Program.outcome_orStop, built]
        rfl
      have healthy : Program.outcome (liftM (client.checkHealth
          (Session.system foretold now others).connection)) start = (.ok true, begun) := by
        rw [Program.outcome_lift, Session.run_checkHealth, up]
        rfl
      have held : Program.outcome (liftM ((Session.system foretold now others).read
          command.prompts)) begun = (.ok (some bytes), begun) := by
        rw [Program.outcome_lift, Session.system_read, read]
      have listed : Program.outcome (orStop PromptError.message
          (readPrompts command.samples bytes)) begun = (.ok prompts, begun) := by
        rw [Program.outcome_orStop, loaded]
        rfl
      have gathered : Program.outcome (liftM (client.collect
          (Session.system foretold now others).connection
          (Session.system foretold now others).log prompts now)) begun =
          (.ok (Transcript.collect foretold client prompts now begun.transcript).1,
            ⟨disk, (Transcript.collect foretold client prompts now begun.transcript).2⟩) := by
        rw [Program.outcome_lift, Session.run_collect]
      rw [perform, run, Program.outcome_bind_ok opened, Program.outcome_bind_ok healthy,
        if_neg (by decide), Program.outcome_bind_ok held,
        Program.outcome_bind_ok (Program.outcome_pure _ _), Program.outcome_bind_ok listed,
        Program.outcome_bind_ok (Program.outcome_lift _ _), Program.outcome_bind_ok gathered]
      rfl

/-- The health check does not change what the prompts are answered. -/
theorem collect_greeted :
    (Transcript.collect foretold client prompts now (greeted foretold client)).1 =
      (Transcript.collect foretold client prompts now .start).1 := by
  simp only [greeted, Transcript.start, Transcript.collect_eq]

theorem verdictOf_collect :
    verdictOf (Transcript.collect foretold client prompts now .start).1 = .failure ↔
      prompts ≠ [] ∧ ∀ response ∈ (Transcript.collect foretold client prompts now
        .start).1.responses, response.response = "" := by
  rw [Transcript.start, Transcript.collect_eq,
    verdictOf_eq_failure (by simp) (countP_isEmpty _), ne_eq, AccuracyClient.answers_eq_nil]

/-- How a run ends that has its responses. Only the disk is another one then. -/
theorem outcome_finish (command : CollectResponses) (set : ResponseSet) (session : Session) :
    ∃ left : Disk,
      Program.outcome (command.finish (Session.system foretold now others) set) session =
      (if (session.disk.unwritable command.output).isSome then
          .error (.stopped ("failed to write " ++ command.output))
        else if session.disk.console session.disk.printed (command.summary set ++ ['\n']) then
          .ok (verdictOf set)
        else .error .brokenOff, { session with disk := left }) := by
  rw [finish, Program.outcome_bind, Session.run_save]
  cases session.disk.unwritable command.output with
  | some left => exact ⟨_, rfl⟩
  | none =>
      dsimp only
      rw [Program.outcome_bind, Session.run_sayLine, Disk.withFile_console, Disk.withFile_printed]
      cases session.disk.console session.disk.printed (command.summary set ++ ['\n']) <;>
        exact ⟨_, rfl⟩

end Run

/-- A server that is busy at first and then answers without any text. -/
def speechless : Foretold where
  replies
    | 1 => (.answer 503 [], ⟨5⟩)
    | _ => (.answer 200 (Utf8.encode "\x7B\"choices\": []\x7D".toList), ⟨7⟩)
  health := .answer 200 []

def quizDisk : Disk := .ofFiles fun path =>
  if path = "quiz" then
    some (Utf8.encode "\x7B\"prompt\": \"a\"\x7D\n\n\x7B\"text\": \"b\"\x7D\n".toList)
  else none

def quizCommand : CollectResponses := ⟨"http://h", "m", "quiz", none, 5, "answers"⟩

def quizClient : AccuracyClient where
  healthUrl := ⟨.http, [], ['h'], none, [['h', 'e', 'a', 'l', 't', 'h']], none, none⟩
  chatUrl :=
    ⟨.http, [], ['h'], none, ["v1".toList, "chat".toList, "completions".toList], none, none⟩
  model := "m"
  maxTokens := 5
  requestTimeout := .ofSeconds 120
  healthTimeout := .ofSeconds 10

end CollectResponses

end InferenceBench.Command
