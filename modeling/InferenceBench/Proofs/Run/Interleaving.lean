import InferenceBench.Proofs.Run.Rounds
import Mathlib.Data.List.Perm.Basic
import Mathlib.Logic.Relation

/-! # The interleavings of a batch

The batch starts the tasks of a chunk one by one and then joins them. Meanwhile each task sends its
call and ends, at any time after its start. A task that has ended may be joined in any order. Once
no task is left the chunk is recorded and reported, and the next chunk begins.

`history` is kept for the statements only; no step reads it.
-/

namespace InferenceBench.Interleaving

/-- The tasks of the chunk under way. -/
structure Pool where
  requests : TaskRequests
  /-- All tasks in the order of their start. -/
  started : List Task
  /-- The tasks that have not sent their calls. -/
  waiting : List Task
  underWay : List Task
  /-- The tasks that have ended and are not joined. -/
  ended : List Task
  /-- The tasks that are joined, in this order. -/
  joined : List Task
  /-- How the calls of the joined tasks ended. -/
  endings : List Ending

namespace Pool

def empty : Pool := ⟨[], [], [], [], [], [], []⟩

/-- The tasks that are started and not joined. -/
def inFlight (pool : Pool) : List Task := pool.waiting ++ pool.underWay ++ pool.ended

def spawn (task : Task) (pool : Pool) : Pool :=
  { pool with
    requests := task.note :: pool.requests
    started := pool.started ++ [task]
    waiting := pool.waiting ++ [task] }

def dispatch (task : Task) (pool : Pool) : Pool :=
  { pool with
    waiting := pool.waiting.erase task
    underWay := pool.underWay ++ [task] }

def finish (task : Task) (pool : Pool) : Pool :=
  { pool with
    underWay := pool.underWay.erase task
    ended := pool.ended ++ [task] }

/-- The runtime tells how the task ended, and the notes tell for which request. -/
def join (fates : Fates) (task : Task) (pool : Pool) : Pool :=
  { pool with
    ended := pool.ended.erase task
    joined := pool.joined ++ [task]
    endings := pool.endings ++ [(task.ending fates).attributed pool.requests] }

/-- Each task is in one place, and the endings are those that are fated. -/
structure Sound (fates : Fates) (pool : Pool) : Prop where
  requests : pool.requests = notes pool.started
  distinct : (pool.started.map Task.number).Nodup
  tasks : (pool.inFlight ++ pool.joined).Perm pool.started
  endings : pool.endings = pool.joined.map (·.call.ending fates)

theorem count_moved {task : Task} {tasks : List Task} (member : task ∈ tasks)
    (others : List Task) (other : Task) :
    (tasks.erase task).count other + (others ++ [task]).count other =
      tasks.count other + others.count other := by
  have taken := (List.perm_cons_erase member).count_eq other
  simp only [List.count_append, List.count_cons, List.count_nil] at taken ⊢
  omega

namespace Sound

variable {fates : Fates} {pool : Pool} {task : Task}

theorem empty : Pool.empty.Sound fates := ⟨rfl, List.nodup_nil, .refl _, rfl⟩

theorem spawn (sound : pool.Sound fates) (fresh : task.number ∉ pool.started.map Task.number) :
    (pool.spawn task).Sound fates where
  requests := by simp [Pool.spawn, sound.requests, notes]
  distinct := by
    simp only [Pool.spawn, List.map_append, List.map_cons, List.map_nil]
    exact sound.distinct.append (List.nodup_singleton _) (by simpa using fresh)
  tasks := by
    refine List.perm_iff_count.mpr fun other => ?_
    have count := sound.tasks.count_eq other
    simp only [inFlight, Pool.spawn, List.count_append] at count ⊢
    omega
  endings := sound.endings

theorem dispatch (sound : pool.Sound fates) (waits : task ∈ pool.waiting) :
    (pool.dispatch task).Sound fates where
  requests := sound.requests
  distinct := sound.distinct
  tasks := by
    refine List.perm_iff_count.mpr fun other => ?_
    have count := sound.tasks.count_eq other
    have moved := count_moved waits pool.underWay other
    simp only [inFlight, Pool.dispatch, List.count_append] at count moved ⊢
    omega
  endings := sound.endings

theorem finish (sound : pool.Sound fates) (runs : task ∈ pool.underWay) :
    (pool.finish task).Sound fates where
  requests := sound.requests
  distinct := sound.distinct
  tasks := by
    refine List.perm_iff_count.mpr fun other => ?_
    have count := sound.tasks.count_eq other
    have moved := count_moved runs pool.ended other
    simp only [inFlight, Pool.finish, List.count_append] at count moved ⊢
    omega
  endings := sound.endings

/-- The notes are those of all tasks started, so the ending of a joined task is that of its call. -/
theorem join (sound : pool.Sound fates) (ends : task ∈ pool.ended) :
    (pool.join fates task).Sound fates where
  requests := sound.requests
  distinct := sound.distinct
  tasks := by
    refine List.perm_iff_count.mpr fun other => ?_
    have count := sound.tasks.count_eq other
    have moved := count_moved ends pool.joined other
    simp only [inFlight, Pool.join, List.count_append] at count moved ⊢
    omega
  endings := by
    have started : task ∈ pool.started := sound.tasks.subset (by simp [inFlight, ends])
    simp only [Pool.join, List.map_append, List.map_cons, List.map_nil, sound.endings,
      sound.requests, attributed_notes sound.distinct started]

end Sound

end Pool

/-- What is the same in all interleavings of a batch. -/
structure Batch where
  fates : Fates
  workload : Workload
  model : String
  plan : BatchPlan

/-- Where the loop over the chunks stands. -/
inductive Stage where
  | between
  /-- The tasks of the calls that are left are still to be started. -/
  | working (chunk : Chunk) (left : List Call)
  /-- The chunk is recorded. -/
  | reporting (chunk : Chunk)

namespace Stage

/-- The chunk under way, if there is one. -/
def current : Stage → List Chunk
  | .working chunk _ => [chunk]
  | .between | .reporting _ => []

def left : Stage → List Call
  | .working _ left => left
  | .between | .reporting _ => []

/-- The chunk that is recorded and not reported, if there is one. -/
def unreported : Stage → List Chunk
  | .reporting chunk => [chunk]
  | .between | .working _ _ => []

end Stage

/-- A chunk that is recorded, and its tasks in the orders of their start and of their joining. -/
structure Past where
  chunk : Chunk
  started : List Task
  joined : List Task

structure State where
  stage : Stage
  /-- The chunks that have not begun. -/
  coming : List Chunk
  pool : Pool
  tally : Tally
  events : List Event
  history : List Past

namespace State

/-- The chunks whose outcomes are recorded. -/
def completed (state : State) : List Chunk := state.history.map Past.chunk

/-- The tasks whose outcomes are recorded, in this order. -/
def recorded (state : State) : List Task := state.history.flatMap Past.joined

/-- The batch is over. -/
structure Final (state : State) : Prop where
  idle : state.stage = .between
  none : state.coming = []

end State

inductive Action where
  | begin (chunk : Chunk)
  | spawn (task : Task)
  | dispatch (task : Task)
  | finish (task : Task)
  | join (task : Task)
  | record (chunk : Chunk)
  | report (chunk : Chunk)

namespace Batch

def started (batch : Batch) : Event :=
  .workloadStarted batch.workload.kind.label batch.plan.totalRequests batch.plan.concurrency

def progress (batch : Batch) (chunk : Chunk) : Event :=
  .chunkDone batch.workload.kind.label chunk.stop batch.plan.totalRequests

def calls (batch : Batch) (chunk : Chunk) : List Call := batch.workload.calls batch.model chunk

def initial (batch : Batch) : State :=
  ⟨.between, batch.plan.chunks, .empty, .empty, [batch.started], []⟩

/-- One step of the batch or of one of its tasks. -/
inductive Step (batch : Batch) : Action → State → State → Prop
  | begin {state : State} {chunk : Chunk} {later : List Chunk}
      (idle : state.stage = .between) (next : state.coming = chunk :: later) :
      Step batch (.begin chunk) state
        { state with
          stage := .working chunk (batch.calls chunk)
          coming := later }
  /-- The runtime gives the task a number that no other task of the chunk has. -/
  | spawn {state : State} {chunk : Chunk} {task : Task} {left : List Call}
      (next : state.stage = .working chunk (task.call :: left))
      (fresh : task.number ∉ state.pool.started.map Task.number) :
      Step batch (.spawn task) state
        { state with
          stage := .working chunk left
          pool := state.pool.spawn task }
  | dispatch {state : State} {task : Task} (waits : task ∈ state.pool.waiting) :
      Step batch (.dispatch task) state { state with pool := state.pool.dispatch task }
  | finish {state : State} {task : Task} (runs : task ∈ state.pool.underWay) :
      Step batch (.finish task) state { state with pool := state.pool.finish task }
  | join {state : State} {chunk : Chunk} {task : Task}
      (joining : state.stage = .working chunk []) (ends : task ∈ state.pool.ended) :
      Step batch (.join task) state { state with pool := state.pool.join batch.fates task }
  | record {state : State} {chunk : Chunk}
      (joining : state.stage = .working chunk []) (none : state.pool.inFlight = []) :
      Step batch (.record chunk) state
        { state with
          stage := .reporting chunk
          pool := .empty
          tally := (state.pool.endings.map Ending.outcome).foldl Tally.record state.tally
          events := state.events ++ state.pool.endings.flatMap Ending.told
          history := state.history ++ [⟨chunk, state.pool.started, state.pool.joined⟩] }
  | report {state : State} {chunk : Chunk} (reporting : state.stage = .reporting chunk) :
      Step batch (.report chunk) state
        { state with
          stage := .between
          events := state.events ++ [batch.progress chunk] }

/-- Steps one after another, in whatever order they are possible. -/
abbrev Steps (batch : Batch) : State → State → Prop :=
  Relation.ReflTransGen fun before after => ∃ action, batch.Step action before after

/-- The states of all interleavings. -/
abbrev Reachable (batch : Batch) (state : State) : Prop := batch.Steps batch.initial state

end Batch

namespace Past

def done (fates : Fates) (past : Past) : DoneChunk :=
  ⟨past.chunk, past.joined.map (·.call.ending fates)⟩

/-- The chunk's calls had a task each, and all tasks were joined. -/
structure Sound (batch : Batch) (past : Past) : Prop where
  calls : past.started.map Task.call = batch.calls past.chunk
  distinct : (past.started.map Task.number).Nodup
  joined : past.joined.Perm past.started

end Past

def State.done (batch : Batch) (state : State) : List DoneChunk :=
  state.history.map (Past.done batch.fates)

/-- What holds at any time: the chunks are recorded, under way or to come, the tasks started are
those of the chunk under way, and the tally and the events tell of the chunks recorded. -/
structure Inv (batch : Batch) (state : State) : Prop where
  chunks : state.completed ++ state.stage.current ++ state.coming = batch.plan.chunks
  calls : state.pool.started.map Task.call ++ state.stage.left =
    state.stage.current.flatMap batch.calls
  pool : state.pool.Sound batch.fates
  past : ∀ past ∈ state.history, past.Sound batch
  tally : state.tally =
    ((state.done batch).flatMap DoneChunk.outcomes).foldl Tally.record .empty
  events : state.events ++ state.stage.unreported.map batch.progress =
    batch.started ::
      (state.done batch).flatMap (DoneChunk.told batch.workload batch.plan.totalRequests)
  unreported : state.stage.unreported <:+ state.completed

namespace Inv

variable {batch : Batch} {state : State}

theorem initial : Inv batch batch.initial where
  chunks := rfl
  calls := rfl
  pool := .empty
  past := by simp [Batch.initial]
  tally := rfl
  events := rfl
  unreported := List.suffix_refl _

/-- Without a chunk under way no tasks are left. -/
theorem none_started (inv : Inv batch state) (none : state.stage.current = []) :
    state.pool.started = [] := by
  have calls := inv.calls
  rw [none, List.flatMap_nil, List.append_eq_nil_iff, List.map_eq_nil_iff] at calls
  exact calls.1

/-- A step of a task changes the pool, but not what was started. -/
theorem with_pool (inv : Inv batch state) {pool : Pool} (sound : pool.Sound batch.fates)
    (same : pool.started = state.pool.started) : Inv batch { state with pool } :=
  { inv with
    calls := by
      rw [same]
      exact inv.calls
    pool := sound }

theorem begin (inv : Inv batch state) {chunk : Chunk} {later : List Chunk}
    (idle : state.stage = .between) (next : state.coming = chunk :: later) :
    Inv batch { state with stage := .working chunk (batch.calls chunk), coming := later } where
  chunks := by
    have chunks := inv.chunks
    simp only [idle, next, Stage.current, List.append_nil] at chunks
    simpa [State.completed, Stage.current] using chunks
  calls := by
    have none := inv.none_started (by rw [idle]; rfl)
    simp [none, Stage.left, Stage.current]
  pool := inv.pool
  past := inv.past
  tally := inv.tally
  events := by
    have events := inv.events
    rwa [idle] at events
  unreported := List.nil_suffix

theorem spawn (inv : Inv batch state) {chunk : Chunk} {task : Task} {left : List Call}
    (next : state.stage = .working chunk (task.call :: left))
    (fresh : task.number ∉ state.pool.started.map Task.number) :
    Inv batch
      { state with stage := .working chunk left, pool := state.pool.spawn task } where
  chunks := by
    have chunks := inv.chunks
    rwa [next] at chunks
  calls := by
    have calls := inv.calls
    rw [next] at calls
    simpa [Pool.spawn, Stage.left, Stage.current] using calls
  pool := inv.pool.spawn fresh
  past := inv.past
  tally := inv.tally
  events := by
    have events := inv.events
    rwa [next] at events
  unreported := List.nil_suffix

/-- Once no task is in flight, the joined tasks are all tasks of the chunk. -/
theorem record (inv : Inv batch state) {chunk : Chunk}
    (joining : state.stage = .working chunk []) (none : state.pool.inFlight = []) :
    Inv batch
      { state with
        stage := .reporting chunk
        pool := .empty
        tally := (state.pool.endings.map Ending.outcome).foldl Tally.record state.tally
        events := state.events ++ state.pool.endings.flatMap Ending.told
        history := state.history ++ [⟨chunk, state.pool.started, state.pool.joined⟩] } where
  chunks := by
    have chunks := inv.chunks
    rw [joining] at chunks
    simpa [State.completed, Stage.current] using chunks
  calls := rfl
  pool := .empty
  past := by
    have calls := inv.calls
    have joined := inv.pool.tasks
    rw [joining] at calls
    rw [none, List.nil_append] at joined
    intro past member
    rcases List.mem_append.mp member with old | new
    · exact inv.past past old
    · rw [List.mem_singleton.mp new]
      exact ⟨by simpa [Stage.left, Stage.current] using calls, inv.pool.distinct, joined⟩
  tally := by
    simp [inv.tally, State.done, Past.done, DoneChunk.outcomes, inv.pool.endings]
  events := by
    have events := inv.events
    rw [joining] at events
    simp only [Stage.unreported, List.map_nil, List.append_nil] at events
    simp [events, State.done, Past.done, DoneChunk.told, Stage.unreported, Batch.progress,
      inv.pool.endings]
  unreported := by simp [Stage.unreported, State.completed]

theorem report (inv : Inv batch state) {chunk : Chunk}
    (reporting : state.stage = .reporting chunk) :
    Inv batch
      { state with stage := .between, events := state.events ++ [batch.progress chunk] } where
  chunks := by
    have chunks := inv.chunks
    rwa [reporting] at chunks
  calls := by
    have calls := inv.calls
    rwa [reporting] at calls
  pool := inv.pool
  past := inv.past
  tally := inv.tally
  events := by
    have events := inv.events
    rw [reporting] at events
    simpa [State.done, Stage.unreported] using events
  unreported := List.nil_suffix

theorem step (inv : Inv batch state) {action : Action} {after : State}
    (step : batch.Step action state after) : Inv batch after := by
  cases step with
  | begin idle next => exact inv.begin idle next
  | spawn next fresh => exact inv.spawn next fresh
  | dispatch waits => exact inv.with_pool (inv.pool.dispatch waits) rfl
  | finish runs => exact inv.with_pool (inv.pool.finish runs) rfl
  | join _ ends => exact inv.with_pool (inv.pool.join ends) rfl
  | record joining none => exact inv.record joining none
  | report reporting => exact inv.report reporting

theorem of_reachable (reachable : batch.Reachable state) : Inv batch state := by
  induction reachable with
  | refl => exact initial
  | tail _ last inv =>
      obtain ⟨_, last⟩ := last
      exact inv.step last

end Inv

end InferenceBench.Interleaving
