import InferenceBench.Event
import InferenceBench.Run.Config
import InferenceBench.Server.Attempt
import InferenceBench.Time.Instant

/-! # Collecting responses

For an evaluation elsewhere, a server is asked to complete each of a list of prompts. A prompt
that gets no response is kept with an empty one. -/

namespace InferenceBench

structure AccuracyClient where
  healthUrl : Url
  chatUrl : Url
  model : String
  maxTokens : Nat
  requestTimeout : Span
  healthTimeout : Span
  deriving Repr, DecidableEq

/-- Why there is no client. -/
inductive AccuracyClientError where
  | noModel
  | endpoint (error : EndpointError)
  deriving Repr, DecidableEq

def AccuracyClientError.message : AccuracyClientError → String
  | .noModel => "model name required"
  | .endpoint error => error.message

structure PromptResponse where
  prompt : String
  response : String
  deriving Repr, DecidableEq

structure ResponseSet where
  model : String
  timestamp : List Char
  samples : Nat
  /-- How many prompts got no response. -/
  failedSamples : Nat
  responses : List PromptResponse
  deriving Repr, DecidableEq

open Json

def ResponseSet.tree (set : ResponseSet) : Json.Tree :=
  .object
    [field "model" (.ofString set.model), field "timestamp" (.ofChars set.timestamp),
      field "num_samples" (.ofNat set.samples),
      field "failed_samples" (.ofNat set.failedSamples),
      field "responses" (.array (set.responses.map fun response =>
        .object [field "prompt" (.ofString response.prompt),
          field "response" (.ofString response.response)]))]

/-- The start of a response on one line, or that there is none. -/
def previewText (response : String) : String :=
  if response.isEmpty then "✗ FAILED"
  else
    String.ofList ("✓ ".toList ++
      (response.toList.take 50).map (fun c => if c = '\n' then ' ' else c) ++ "...".toList)

namespace AccuracyClient

def ofModel (baseUrl model : String) : Except AccuracyClientError AccuracyClient :=
  if isBlankName model then .error .noModel
  else
    match resolveEndpoint baseUrl healthPath, resolveEndpoint baseUrl chatPath with
    | .ok healthUrl, .ok chatUrl =>
      .ok ⟨healthUrl, chatUrl, model, 2048, .ofSeconds 120, .ofSeconds 10⟩
    | .error error, _ | .ok _, .error error => .error (.endpoint error)

/-- The message where the server does not tell that it is up. -/
def unreachableMessage (client : AccuracyClient) : String :=
  String.ofList ("cannot reach inference server at ".toList ++ client.healthUrl.text)

/-- Whether a reply tells that the server is up: one whose status is no error. -/
def isHealthy : Reply → Bool
  | .answer status _ | .brokenBody status => !(400 ≤ status && status < 600)
  | .closed | .refused | .timedOut => false

/-- The request for the completion of a prompt. -/
def request (client : AccuracyClient) (prompt : String) : Chat.Request :=
  .deterministic client.model [.user prompt] client.maxTokens

variable {m : Type → Type} [Monad m]

/-- Whether the server tells that it is up. -/
def checkHealth (client : AccuracyClient) (connection : Connection m) : m Bool := do
  pure (isHealthy (← connection.get client.healthUrl client.healthTimeout))

/-- The completion of a prompt; a response without text is empty. -/
def generate (client : AccuracyClient) (connection : Connection m) (prompt : String) :
    m (Except AttemptError String) := do
  let (reply, _) ← connection.post client.chatUrl (client.request prompt).body client.requestTimeout
  pure ((reply.judge client.chatUrl).map fun response => response.firstContent?.getD "")

/-- The response to a prompt, which is the given sample of `total`. -/
def sample (client : AccuracyClient) (connection : Connection m) (log : Event → m Unit)
    (total number : Nat) (prompt : String) : m PromptResponse := do
  let response ← match ← client.generate connection prompt with
    | .ok text => pure text
    | .error error =>
      log (.generationFailed number error.message)
      pure ""
  log (.sampleDone number total (previewText response))
  pure ⟨prompt, response⟩

/-- The responses to the prompts, one after the other, the first of which is sample `number`, and
how many samples failed, where `failed` of them did before. -/
def samplesFrom (client : AccuracyClient) (connection : Connection m) (log : Event → m Unit)
    (total number failed : Nat) : List String → m (List PromptResponse × Nat)
  | [] => pure ([], failed)
  | prompt :: rest => do
    let response ← client.sample connection log total number prompt
    let failed := if response.response.isEmpty then failed + 1 else failed
    let (responses, failed) ← client.samplesFrom connection log total (number + 1) failed rest
    pure (response :: responses, failed)

/-- The responses to all prompts. -/
def collect (client : AccuracyClient) (connection : Connection m) (log : Event → m Unit)
    (prompts : List String) (now : Instant) : m ResponseSet := do
  let (responses, failed) ← client.samplesFrom connection log prompts.length 1 0 prompts
  pure ⟨client.model, now.text, prompts.length, failed, responses⟩

end AccuracyClient

end InferenceBench
