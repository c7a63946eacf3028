import InferenceBench.Json.Record

/-! # Chat responses

Of the answer to a chat request only the token counts and the texts are read. -/

namespace InferenceBench.Chat

open Json

structure Usage where
  promptTokens : Nat
  completionTokens : Nat
  deriving Repr, DecidableEq

structure Response where
  usage : Option Usage
  /-- The texts of the choices, as far as they have one. -/
  contents : List (Option String)
  deriving Repr, DecidableEq

def Usage.ofTree? (tree : Tree) : Option Usage := do
  let slots ← tree.slots? ["prompt_tokens", "completion_tokens"]
  let promptTokens ← slots.withDefault 0 (Tree.naturalBelow? UInt64.size) "prompt_tokens"
  let completionTokens ← slots.withDefault 0 (Tree.naturalBelow? UInt64.size) "completion_tokens"
  pure ⟨promptTokens, completionTokens⟩

/-- The text of a message. -/
def messageContent? (tree : Tree) : Option (Option String) := do
  let slots ← tree.slots? ["content"]
  slots.withDefault none (Tree.nullable? Tree.string?) "content"

/-- The text of the message of a choice. -/
def choiceContent? (tree : Tree) : Option (Option String) := do
  let slots ← tree.slots? ["message"]
  slots.required messageContent? "message"

namespace Response

def ofTree? (tree : Tree) : Option Response := do
  let slots ← tree.slots? ["usage", "choices"]
  let usage ← slots.withDefault none (Tree.nullable? Usage.ofTree?) "usage"
  let contents ← slots.withDefault [] (Tree.list? choiceContent?) "choices"
  pure ⟨usage, contents⟩

/-- The response that a body spells. -/
def ofBody? (body : List UInt8) : Option Response := (Tree.ofBytes? body).bind ofTree?

def promptTokens (response : Response) : Nat :=
  match response.usage with
  | some usage => usage.promptTokens
  | none => 0

def completionTokens (response : Response) : Nat :=
  match response.usage with
  | some usage => usage.completionTokens
  | none => 0

/-- The text of the first choice. -/
def firstContent? (response : Response) : Option String :=
  match response.contents with
  | content :: _ => content
  | [] => none

end Response

end InferenceBench.Chat
