import InferenceBench.Event
import InferenceBench.Run.Chunks
import InferenceBench.Run.Workload

/-! # Running a batch

All requests of a chunk are under way at once, and the next chunk waits until each of them has
ended. They may end in any order; the tally takes them in that order. A request whose task
crashes is a failure of that request, with the runtime's words on the crash. -/

namespace InferenceBench

/-- One request to send. -/
structure Call where
  requestId : Nat
  request : Chat.Request
  timeout : Span
  deriving Repr, DecidableEq

/-- How a call ends. -/
inductive Ending where
  | finished (outcome : Outcome)
  | crashed (requestId : Nat) (reason : String := "")
  deriving Repr, DecidableEq

def Ending.outcome : Ending → Outcome
  | .finished outcome => outcome
  | .crashed requestId reason => .failed requestId ("request task failed: " ++ reason) 0

namespace Workload

/-- The calls of a chunk; requests are counted from one. -/
def calls (workload : Workload) (model : String) (chunk : Chunk) : List Call :=
  chunk.numbers.map fun index => ⟨index + 1, workload.request model, workload.timeout⟩

variable {m : Type → Type} [Monad m]

/-- Records an ending, and tells about it if it is a failure with a reason. -/
def recordEnding (log : Event → m Unit) (tally : Tally) (ending : Ending) : m Tally := do
  if let some error := ending.outcome.error then
    log (.requestFailed ending.outcome.requestId error)
  pure (tally.record ending.outcome)

/-- Runs one chunk. -/
def runChunk (workload : Workload) (perform : List Call → m (List Ending))
    (log : Event → m Unit) (model : String) (total : Nat) (tally : Tally) (chunk : Chunk) :
    m Tally := do
  let endings ← perform (workload.calls model chunk)
  let tally ← endings.foldlM (recordEnding log) tally
  log (.chunkDone workload.kind.label chunk.stop total)
  pure tally

/-- Sends every request of a workload. `perform` sends the calls of a chunk and gives their
endings in the order in which they came about. The tally has no wall time yet. -/
def run (workload : Workload) (perform : List Call → m (List Ending)) (log : Event → m Unit)
    (model : String) (plan : BatchPlan) : m Tally := do
  log (.workloadStarted workload.kind.label plan.totalRequests plan.concurrency)
  plan.chunks.foldlM (workload.runChunk perform log model plan.totalRequests) .empty

end Workload

end InferenceBench
