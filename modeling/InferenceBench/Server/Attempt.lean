import InferenceBench.Chat.Message
import InferenceBench.Chat.Response
import InferenceBench.Server.Endpoint
import InferenceBench.Time.Span

/-! # Attempts

An attempt sends one request and waits for what comes back. It succeeds only if the status is one
of success and the complete body is a chat response; the body is read before either is looked
at. -/

namespace InferenceBench

/-- What comes back for a request. -/
inductive Reply where
  | answer (status : Nat) (body : List UInt8)
  /-- The connection broke before the body was complete. -/
  | brokenBody (status : Nat)
  /-- The connection was closed without an answer. -/
  | closed
  /-- There was no connection. -/
  | refused
  /-- Nothing came in time. -/
  | timedOut
  deriving Repr, DecidableEq, Inhabited

/-- The place at which a connection failed. -/
inductive TransportFault where
  | sending (url : Url)
  | receiving
  deriving Repr, DecidableEq

inductive AttemptError where
  | status (code : Nat) (text : List Char)
  | timedOut
  | transport (fault : TransportFault)
  | body
  deriving Repr, DecidableEq

/-- How many characters of the body of a failure its message keeps. -/
def keptBodyLength : Nat := 200

namespace AttemptError

/-- The failure of an answer without success; broken parts of the body are replaced, and only its
start is kept. -/
def ofStatus (status : Nat) (body : List UInt8) : AttemptError :=
  .status status ((Utf8.decodeLossy body).take keptBodyLength)

/-- The message of an error. For an invalid body it ends where the reader's own account of the fault
would follow, after a colon: readers differ in how they put it, and nothing depends on it. -/
def message : AttemptError → String
  | .status code text =>
    String.ofList ("HTTP ".toList ++ Nat.toDigits 10 code ++ ": ".toList ++ text)
  | .timedOut => "request timed out"
  | .transport (.sending url) =>
    String.ofList ("transport error: error sending request for url (".toList ++ url.text ++ [')'])
  | .transport .receiving => "transport error: error decoding response body"
  | .body => "invalid response body"

def statusCode? : AttemptError → Option Nat
  | .status code _ => some code
  | _ => none

end AttemptError

def isSuccess (status : Nat) : Bool := 200 ≤ status && status < 300

/-- What a reply means for the attempt that it answers. -/
def Reply.judge (url : Url) : Reply → Except AttemptError Chat.Response
  | .answer status body =>
    if isSuccess status then
      match Chat.Response.ofBody? body with
      | some response => .ok response
      | none => .error .body
    else .error (.ofStatus status body)
  | .brokenBody _ => .error (.transport .receiving)
  | .closed | .refused => .error (.transport (.sending url))
  | .timedOut => .error .timedOut

/-- A way to reach servers. -/
structure Connection (m : Type → Type) where
  /-- Sends a body; gives the reply and how long it took. -/
  post : (url : Url) → (body : List Char) → (timeout : Span) → m (Reply × Span)
  get : (url : Url) → (timeout : Span) → m Reply
  sleep : Span → m Unit

end InferenceBench
