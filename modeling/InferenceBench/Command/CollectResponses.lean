import InferenceBench.Accuracy.Client
import InferenceBench.Accuracy.Prompts
import InferenceBench.Command.Arguments
import InferenceBench.Command.System

/-! # Collecting responses

The program that has a server answer the prompts of an evaluation. It sends nothing before the
server has told that it is up. -/

namespace InferenceBench.Command

structure CollectResponses where
  baseUrl : String
  model : String
  prompts : String
  samples : Option Nat
  maxTokens : Nat
  output : String
  deriving Repr, DecidableEq

namespace CollectResponses

def options : List OptionSpec :=
  [⟨"base-url", .single .text, some "VLLM_BASE_URL"⟩, ⟨"model", .single .text, some "MODEL"⟩,
    ⟨"prompts", .single .path, none⟩, ⟨"num-samples", .single .natural, none⟩,
    ⟨"max-tokens", .single .short, none⟩, ⟨"output", .single .path, none⟩]

def ofGiven (given : Given) : Except Refusal CollectResponses :=
  match given.text? "model", given.text? "prompts" with
  | some model, some prompts =>
    .ok
      { baseUrl := (given.text? "base-url").getD "http://localhost:8000"
        model, prompts
        samples := given.natural? "num-samples"
        maxTokens := (given.short? "max-tokens").getD 2048
        output := (given.text? "output").getD "ifeval_responses.json" }
  | _, _ => .error .usage

/-- What is told about responses that are saved. -/
def summary (command : CollectResponses) (set : ResponseSet) : List Char :=
  "Collected ".toList ++ Numeral.digitText set.samples ++ " responses (".toList ++
    Numeral.digitText set.failedSamples ++ " failed), saved to ".toList ++ command.output.toList

variable {m : Type → Type} [Monad m]

def run (command : CollectResponses) (system : System m) : Program m Verdict := do
  let client ← orStop AccuracyClientError.message
    (AccuracyClient.ofModel command.baseUrl command.model)
  let client := { client with maxTokens := command.maxTokens }
  let up ← (client.checkHealth system.connection : m Bool)
  if !up then throw client.unreachableMessage
  let bytes ← match ← system.read command.prompts with
    | some bytes => pure bytes
    | none => throw ("unable to open " ++ command.prompts)
  let prompts ← orStop PromptError.message (readPrompts command.samples bytes)
  let now ← system.now
  let set ← (client.collect system.connection system.log prompts now : m ResponseSet)
  system.save "failed to write " command.output set.tree.pretty
  system.sayLine (command.summary set)
  pure (if 0 < set.samples && set.failedSamples = set.samples then .failure else .success)

end CollectResponses

end InferenceBench.Command
