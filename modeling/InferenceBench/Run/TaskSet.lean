import InferenceBench.Run.Batch

/-! # Tasks

The calls of a chunk are carried out by tasks. The runtime gives each task a number, and of a task
that crashes it tells no more than this number and the reason. So it is noted for which request a
task was started. -/

namespace InferenceBench

/-- The number that the runtime gives to a task. -/
abbrev TaskId := Nat

/-- How a task ends. -/
inductive TaskEnding where
  | finished (outcome : Outcome)
  | crashed (task : TaskId) (reason : String)
  deriving Repr, DecidableEq

/-- The requests of the tasks of a chunk, the latest task first. -/
abbrev TaskRequests := List (TaskId × Nat)

/-- The request of a task; zero if there is no note of it. -/
def TaskRequests.requestOf (requests : TaskRequests) (task : TaskId) : Nat :=
  (requests.lookup task).getD 0

/-- How the call ended for which the task was started. -/
def TaskEnding.attributed (requests : TaskRequests) : TaskEnding → Ending
  | .finished outcome => .finished outcome
  | .crashed task reason => .crashed (requests.requestOf task) reason

/-- What the runtime can do with the tasks of a chunk. -/
structure TaskSet (m : Type → Type) (α : Type) where
  /-- Starts the task of a call; the number of the task. -/
  spawn : α → m TaskId
  /-- Waits for all tasks; how they ended, in the order in which they came to their ends. -/
  joinAll : m (List TaskEnding)

namespace TaskSet

variable {m : Type → Type} [Monad m] {α : Type}

/-- Starts the task of a call and notes the request it is for. -/
def start (tasks : TaskSet m α) (requestId : α → Nat) (requests : TaskRequests) (call : α) :
    m TaskRequests := do
  let task ← tasks.spawn call
  pure ((task, requestId call) :: requests)

/-- Carries out calls at once; their endings in the order in which they came about. -/
def perform (tasks : TaskSet m α) (requestId : α → Nat) (calls : List α) : m (List Ending) := do
  let requests ← calls.foldlM (tasks.start requestId) []
  let endings ← tasks.joinAll
  pure (endings.map (·.attributed requests))

end TaskSet

end InferenceBench
