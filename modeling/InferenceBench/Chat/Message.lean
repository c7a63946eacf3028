import InferenceBench.Json.Printer
import InferenceBench.Json.Record

/-! # Chat messages and requests

The wire format in which a server is asked to complete a chat. -/

namespace InferenceBench.Chat

open Json

structure Message where
  role : String
  content : String
  deriving Repr, DecidableEq

structure Request where
  model : String
  messages : List Message
  maxTokens : Nat
  temperature : Float32
  deriving Repr, DecidableEq

namespace Message

def user (content : String) : Message := ⟨"user", content⟩

def tree (message : Message) : Tree :=
  .object [field "role" (.ofString message.role), field "content" (.ofString message.content)]

def ofTree? (tree : Tree) : Option Message := do
  let slots ← tree.slots? ["role", "content"]
  let role ← slots.required Tree.string? "role"
  let content ← slots.required Tree.string? "content"
  pure ⟨role, content⟩

end Message

namespace Request

/-- A request whose answer leaves nothing to chance: its temperature is zero. -/
def deterministic (model : String) (messages : List Message) (maxTokens : Nat) : Request :=
  ⟨model, messages, maxTokens, 0⟩

def tree (request : Request) : Tree :=
  .object
    [field "model" (.ofString request.model),
      field "messages" (.array (request.messages.map Message.tree)),
      field "max_tokens" (.ofNat request.maxTokens),
      field "temperature" (.ofSingle request.temperature)]

def ofTree? (tree : Tree) : Option Request := do
  let slots ← tree.slots? ["model", "messages", "max_tokens", "temperature"]
  let model ← slots.required Tree.string? "model"
  let messages ← slots.required (Tree.list? Message.ofTree?) "messages"
  let maxTokens ← slots.required (Tree.naturalBelow? UInt32.size) "max_tokens"
  let temperature ← slots.required Tree.single? "temperature"
  pure ⟨model, messages, maxTokens, temperature⟩

/-- The body in which the request is sent. -/
def body (request : Request) : List Char := request.tree.compact

/-- The request that a body spells. -/
def ofBody? (body : List UInt8) : Option Request := (Tree.ofBytes? body).bind ofTree?

end Request

end InferenceBench.Chat
