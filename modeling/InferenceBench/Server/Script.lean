import InferenceBench.Event
import InferenceBench.Server.Http

/-! # Scripted servers

A server whose replies are known beforehand. It keeps a trace of all that is done, so that what a
client does can be told from the replies alone. -/

namespace InferenceBench

/-- What a client does. -/
inductive Action where
  | asked (method : Http.Method) (url : Url) (timeout : Span) (reply : Reply)
  | slept (span : Span)
  | told (event : Event)
  deriving Repr, DecidableEq

structure Script where
  /-- The replies to requests with a body; the last one repeats. -/
  replies : List Reply
  /-- The reply to all other requests. -/
  health : Reply
  /-- What has been done so far. -/
  trace : List Action
  deriving Repr, DecidableEq

namespace Script

/-- The script before anything is done. -/
def ofReplies (replies : List Reply) (health : Reply) : Script := ⟨replies, health, []⟩

/-- The reply that is next. -/
def nextReply (script : Script) : Reply := script.replies.head?.getD .closed

/-- The replies that are left after the next one. -/
def laterReplies : List Reply → List Reply
  | _ :: reply :: rest => reply :: rest
  | replies => replies

def act (action : Action) : StateM Script Unit :=
  modify fun script => { script with trace := script.trace ++ [action] }

def tell (event : Event) : StateM Script Unit := act (.told event)

/-- The connection to a scripted server, on which no time passes. -/
def connection : Connection (StateM Script) :=
  { post := fun url body timeout => do
      let reply := (← get).nextReply
      modify fun script => { script with replies := laterReplies script.replies }
      act (.asked (.post body) url timeout reply)
      pure (reply, .zero)
    get := fun url timeout => do
      let reply := (← get).health
      act (.asked .get url timeout reply)
      pure reply
    sleep := fun span => act (.slept span) }

/-- The requests that reached the server, by method and URL. -/
def seen (script : Script) : List (Http.Method × Url) :=
  script.trace.filterMap fun action =>
    match action with
    | .asked method url _ reply => if reply = .refused then none else some (method, url)
    | .slept _ | .told _ => none

def events (script : Script) : List Event :=
  script.trace.filterMap fun action =>
    match action with
    | .told event => some event
    | .asked .. | .slept _ => none

end Script

end InferenceBench
