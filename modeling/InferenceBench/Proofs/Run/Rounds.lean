import InferenceBench.Run.TaskSet
import InferenceBench.Proofs.Run.Chunks
import InferenceBench.Proofs.Run.Tally
import Mathlib.Data.List.Forall2
import Mathlib.Data.List.Nodup

/-! # Batches in rounds

What a dispatcher makes of each request is fixed; the numbers of the tasks and the order in which
they end are not. A round lays both down for one chunk, and a batch that replays one round for
each chunk has a closed form.
-/

namespace InferenceBench

/-- What becomes of a request: an outcome, or a crash of its task and the runtime's words on it. -/
inductive Fate where
  | returns (outcome : Outcome)
  | crashes (reason : String)

/-- The fate of each request. -/
abbrev Fates := Nat → Fate

def Fate.ending (requestId : Nat) : Fate → Ending
  | .returns outcome => .finished outcome
  | .crashes reason => .crashed requestId reason

/-- The outcome that is recorded, that of a crash included. -/
def Fate.outcome (requestId : Nat) (fate : Fate) : Outcome := (fate.ending requestId).outcome

def Fates.outcomes (fates : Fates) (requestIds : List Nat) : List Outcome :=
  requestIds.map fun requestId => (fates requestId).outcome requestId

def Call.ending (fates : Fates) (call : Call) : Ending :=
  (fates call.requestId).ending call.requestId

/-- The call of a request; the calls of a workload differ in the request's id only. -/
def Workload.call (workload : Workload) (model : String) (requestId : Nat) : Call :=
  ⟨requestId, workload.request model, workload.timeout⟩

theorem Workload.calls_eq (workload : Workload) (model : String) (chunk : Chunk) :
    workload.calls model chunk = chunk.requestIds.map (workload.call model) := by
  rw [calls, Chunk.requestIds, List.map_map]
  rfl

theorem Workload.calls_requestIds (workload : Workload) (model : String) (chunk : Chunk) :
    (workload.calls model chunk).map Call.requestId = chunk.requestIds := by
  rw [calls, Chunk.requestIds, List.map_map]
  rfl

theorem calls_of_chunks (workload : Workload) (model : String) (plan : BatchPlan) :
    plan.chunks.flatMap (workload.calls model) =
      (List.range' 1 plan.totalRequests).map (workload.call model) := by
  rw [← plan.chunks_requestIds, List.map_flatMap]
  exact List.flatMap_congr fun chunk _ => workload.calls_eq model chunk

/-- A task and the call it was started for. -/
structure Task where
  number : TaskId
  call : Call
  deriving DecidableEq

namespace Task

def note (task : Task) : TaskId × Nat := (task.number, task.call.requestId)

/-- How the task ends, as the runtime tells it. -/
def ending (fates : Fates) (task : Task) : TaskEnding :=
  match fates task.call.requestId with
  | .returns outcome => .finished outcome
  | .crashes reason => .crashed task.number reason

end Task

/-- The notes on tasks that were started in this order. -/
def notes (tasks : List Task) : TaskRequests := (tasks.map Task.note).reverse

theorem requestOf_notes {tasks : List Task} {task : Task}
    (distinct : (tasks.map Task.number).Nodup) (started : task ∈ tasks) :
    (notes tasks).requestOf task.number = task.call.requestId := by
  obtain ⟨before, after, rfl⟩ := List.append_of_mem started
  have latest : (notes (before ++ task :: after)).lookup task.number =
      some task.call.requestId := by
    rw [List.lookup_eq_some_iff]
    refine ⟨(after.map Task.note).reverse, (before.map Task.note).reverse, ?_, ?_⟩
    · simp [notes, Task.note]
    · intro note noted
      simp only [List.mem_reverse, List.mem_map] at noted
      obtain ⟨other, later, rfl⟩ := noted
      rw [List.map_append, List.map_cons] at distinct
      have unlike := (List.nodup_cons.mp distinct.of_append_right).1
      rw [bne_iff_ne]
      intro same
      exact unlike (List.mem_map.mpr ⟨other, later, same.symm⟩)
  simp [TaskRequests.requestOf, latest]

/-- Notes on tasks with numbers of their own tell the ending of each call. -/
theorem attributed_notes {fates : Fates} {tasks : List Task} {task : Task}
    (distinct : (tasks.map Task.number).Nodup) (started : task ∈ tasks) :
    (task.ending fates).attributed (notes tasks) = task.call.ending fates := by
  unfold Task.ending Call.ending
  cases fates task.call.requestId with
  | returns outcome => rfl
  | crashes reason =>
      simp only [TaskEnding.attributed, Fate.ending, requestOf_notes distinct started]

/-- The numbers of the tasks of a chunk in the order of their start, and their endings in the order
in which they come about. -/
structure Round where
  numbers : List TaskId
  endings : List TaskEnding

namespace Round

/-- The tasks of the calls of a chunk. -/
def tasks (calls : List Call) (round : Round) : List Task :=
  (round.numbers.zip calls).map fun pair => ⟨pair.1, pair.2⟩

/-- How the calls of a chunk end, as the batch sees it. -/
def attributed (calls : List Call) (round : Round) : List Ending :=
  round.endings.map (·.attributed (notes (round.tasks calls)))

/-- No two tasks have the same number, and each of them ends once. -/
structure Serves (fates : Fates) (calls : List Call) (round : Round) : Prop where
  length : round.numbers.length = calls.length
  distinct : round.numbers.Nodup
  endings : round.endings.Perm ((round.tasks calls).map (Task.ending fates))

theorem map_number_tasks {calls : List Call} {round : Round}
    (length : round.numbers.length = calls.length) :
    (round.tasks calls).map Task.number = round.numbers := by
  rw [tasks, List.map_map]
  exact List.map_fst_zip (Nat.le_of_eq length)

theorem map_call_tasks {calls : List Call} {round : Round}
    (length : round.numbers.length = calls.length) :
    (round.tasks calls).map Task.call = calls := by
  rw [tasks, List.map_map]
  exact List.map_snd_zip (Nat.le_of_eq length.symm)

theorem Serves.attributed_perm {fates : Fates} {calls : List Call} {round : Round}
    (serves : round.Serves fates calls) :
    (round.attributed calls).Perm (calls.map (Call.ending fates)) := by
  refine (serves.endings.map _).trans (List.Perm.of_eq ?_)
  conv_rhs => rw [← map_call_tasks serves.length]
  rw [List.map_map, List.map_map]
  refine List.map_congr_left fun task started => attributed_notes ?_ started
  rw [map_number_tasks serves.length]
  exact serves.distinct

end Round

/-- What the batch tells of an ending. -/
def Ending.told (ending : Ending) : List Event :=
  match ending.outcome.error with
  | some error => [.requestFailed ending.outcome.requestId error]
  | none => []

/-- A chunk that is done and how its calls ended, in this order. -/
structure DoneChunk where
  chunk : Chunk
  endings : List Ending

namespace DoneChunk

/-- What the batch tells while it records the chunk. -/
def told (workload : Workload) (total : Nat) (done : DoneChunk) : List Event :=
  done.endings.flatMap Ending.told ++ [.chunkDone workload.kind.label done.chunk.stop total]

def outcomes (done : DoneChunk) : List Outcome := done.endings.map Ending.outcome

end DoneChunk

/-- What becomes of chunks that are served by rounds. -/
def doneChunks (workload : Workload) (model : String) (chunks : List Chunk)
    (rounds : List Round) : List DoneChunk :=
  List.zipWith (fun chunk round => ⟨chunk, round.attributed (workload.calls model chunk)⟩)
    chunks rounds

/-- Each chunk has a round that serves it. -/
abbrev Served (fates : Fates) (workload : Workload) (model : String) (chunks : List Chunk)
    (rounds : List Round) : Prop :=
  List.Forall₂ (fun chunk round => round.Serves fates (workload.calls model chunk)) chunks rounds

/-- Whatever the round, a chunk has the outcomes that are fated for its requests. -/
theorem Round.Serves.outcomes_perm {fates : Fates} {workload : Workload} {model : String}
    {chunk : Chunk} {round : Round} (serves : round.Serves fates (workload.calls model chunk)) :
    ((round.attributed (workload.calls model chunk)).map Ending.outcome).Perm
      (fates.outcomes chunk.requestIds) := by
  have outcomes := serves.attributed_perm.map Ending.outcome
  rw [List.map_map] at outcomes
  refine outcomes.trans (List.Perm.of_eq ?_)
  rw [workload.calls_eq, List.map_map]
  rfl

theorem Served.outcomes_perm {fates : Fates} {workload : Workload} {model : String}
    {chunks : List Chunk} {rounds : List Round}
    (served : Served fates workload model chunks rounds) :
    ((doneChunks workload model chunks rounds).flatMap DoneChunk.outcomes).Perm
      (fates.outcomes (chunks.flatMap Chunk.requestIds)) := by
  induction served with
  | nil => simp [doneChunks, Fates.outcomes]
  | cons serves _ ih =>
      simp only [doneChunks, Fates.outcomes, List.zipWith_cons_cons, List.flatMap_cons,
        List.map_append] at ih ⊢
      exact serves.outcomes_perm.append ih

/-- A world that replays rounds, and keeps the calls it was given and the events it was told. -/
structure Replay where
  coming : List Round
  calls : List Call
  events : List Event

namespace Replay

def takeNumber (call : Call) : Replay → TaskId × Replay
  | ⟨⟨number :: numbers, endings⟩ :: later, calls, events⟩ =>
    (number, ⟨⟨numbers, endings⟩ :: later, calls ++ [call], events⟩)
  | ⟨coming, calls, events⟩ => (0, ⟨coming, calls ++ [call], events⟩)

def takeEndings : Replay → List TaskEnding × Replay
  | ⟨round :: later, calls, events⟩ => (round.endings, ⟨later, calls, events⟩)
  | ⟨[], calls, events⟩ => ([], ⟨[], calls, events⟩)

def tasks : TaskSet (StateM Replay) Call :=
  { spawn := fun call => modifyGet (takeNumber call)
    joinAll := modifyGet takeEndings }

def tell (event : Event) : StateM Replay Unit :=
  modify fun replay => { replay with events := replay.events ++ [event] }

/-- A batch in this world. -/
def batch (workload : Workload) (model : String) (plan : BatchPlan) (rounds : List Round) :
    Tally × Replay :=
  ((workload.run (tasks.perform Call.requestId) tell model plan).run ⟨rounds, [], []⟩).run

section Closed

variable {later : List Round} {events : List Event}

theorem starts_run {new : List Call} {numbers : List TaskId} {endings : List TaskEnding}
    {calls : List Call} {requests : TaskRequests} (length : numbers.length = new.length) :
    (new.foldlM (tasks.start Call.requestId) requests).run
        ⟨⟨numbers, endings⟩ :: later, calls, events⟩ =
      pure (notes (Round.tasks new ⟨numbers, endings⟩) ++ requests,
        ⟨⟨[], endings⟩ :: later, calls ++ new, events⟩) := by
  induction new generalizing requests numbers calls with
  | nil =>
      obtain rfl := List.eq_nil_of_length_eq_zero length
      simp [notes, Round.tasks]
  | cons call new ih =>
      cases numbers with
      | nil => simp at length
      | cons number numbers =>
          have start : (tasks.start Call.requestId requests call).run
              ⟨⟨number :: numbers, endings⟩ :: later, calls, events⟩ =
              pure ((number, call.requestId) :: requests,
                ⟨⟨numbers, endings⟩ :: later, calls ++ [call], events⟩) := by
            simp [TaskSet.start, tasks, takeNumber]
          simp only [List.foldlM_cons, StateT.run_bind, start, pure_bind]
          rw [ih (by simpa using length)]
          simp [notes, Round.tasks, Task.note]

theorem perform_run {new : List Call} {round : Round} {calls : List Call}
    (length : round.numbers.length = new.length) :
    (tasks.perform Call.requestId new).run ⟨round :: later, calls, events⟩ =
      pure (round.attributed new, ⟨later, calls ++ new, events⟩) := by
  simp only [TaskSet.perform, StateT.run_bind]
  rw [starts_run length]
  simp [tasks, takeEndings, Round.attributed]

theorem recordings_run {endings : List Ending} {tally : Tally} {calls : List Call} :
    (endings.foldlM (Workload.recordEnding tell) tally).run ⟨later, calls, events⟩ =
      pure ((endings.map Ending.outcome).foldl Tally.record tally,
        ⟨later, calls, events ++ endings.flatMap Ending.told⟩) := by
  induction endings generalizing tally events with
  | nil => simp
  | cons ending endings ih =>
      have first : (Workload.recordEnding tell tally ending).run ⟨later, calls, events⟩ =
          pure (tally.record ending.outcome, ⟨later, calls, events ++ ending.told⟩) := by
        unfold Workload.recordEnding Ending.told
        cases ending.outcome.error with
        | none => simp
        | some error => simp [tell]
      simp only [List.foldlM_cons, StateT.run_bind, first, pure_bind]
      rw [ih]
      simp

theorem chunks_run {fates : Fates} {workload : Workload} {model : String} {total : Nat}
    {chunks : List Chunk} {rounds : List Round} (served : Served fates workload model chunks rounds)
    {tally : Tally} {calls : List Call} :
    (chunks.foldlM (workload.runChunk (tasks.perform Call.requestId) tell model total) tally).run
        ⟨rounds ++ later, calls, events⟩ =
      pure (((doneChunks workload model chunks rounds).flatMap DoneChunk.outcomes).foldl
          Tally.record tally,
        ⟨later, calls ++ chunks.flatMap (workload.calls model),
          events ++ (doneChunks workload model chunks rounds).flatMap
            (DoneChunk.told workload total)⟩) := by
  induction served generalizing tally calls events with
  | nil => simp [doneChunks]
  | @cons chunk round chunks rounds serves _ ih =>
      have first : (workload.runChunk (tasks.perform Call.requestId) tell model total tally
          chunk).run ⟨round :: (rounds ++ later), calls, events⟩ =
          pure (((round.attributed (workload.calls model chunk)).map Ending.outcome).foldl
              Tally.record tally,
            ⟨rounds ++ later, calls ++ workload.calls model chunk,
              events ++ DoneChunk.told workload total
                ⟨chunk, round.attributed (workload.calls model chunk)⟩⟩) := by
        simp only [Workload.runChunk, StateT.run_bind, perform_run serves.length, pure_bind,
          recordings_run]
        simp [tell, DoneChunk.told]
      simp only [List.cons_append, List.foldlM_cons, StateT.run_bind, first, pure_bind]
      rw [ih]
      simp [doneChunks, DoneChunk.outcomes]

/-- A batch takes the rounds that serve it, and leaves those that come later. -/
theorem workload_run {fates : Fates} {workload : Workload} {model : String} {plan : BatchPlan}
    {rounds : List Round} (served : Served fates workload model plan.chunks rounds)
    {calls : List Call} :
    (workload.run (tasks.perform Call.requestId) tell model plan).run
        ⟨rounds ++ later, calls, events⟩ =
      pure (((doneChunks workload model plan.chunks rounds).flatMap DoneChunk.outcomes).foldl
          Tally.record .empty,
        ⟨later, calls ++ plan.chunks.flatMap (workload.calls model),
          events ++ .workloadStarted workload.kind.label plan.totalRequests plan.concurrency ::
            (doneChunks workload model plan.chunks rounds).flatMap
              (DoneChunk.told workload plan.totalRequests)⟩) := by
  have start : (tell (.workloadStarted workload.kind.label plan.totalRequests
      plan.concurrency)).run ⟨rounds ++ later, calls, events⟩ =
      pure ((), ⟨rounds ++ later, calls, events ++ [.workloadStarted workload.kind.label
        plan.totalRequests plan.concurrency]⟩) := rfl
  simp only [Workload.run, StateT.run_bind, start, pure_bind, chunks_run served]
  simp

end Closed

theorem batch_eq {fates : Fates} {workload : Workload} {model : String} {plan : BatchPlan}
    {rounds : List Round} (served : Served fates workload model plan.chunks rounds) :
    batch workload model plan rounds =
      (((doneChunks workload model plan.chunks rounds).flatMap DoneChunk.outcomes).foldl
          Tally.record .empty,
        ⟨[], plan.chunks.flatMap (workload.calls model),
          .workloadStarted workload.kind.label plan.totalRequests plan.concurrency ::
            (doneChunks workload model plan.chunks rounds).flatMap
              (DoneChunk.told workload plan.totalRequests)⟩) := by
  have run := @workload_run [] [] _ _ _ _ _ served []
  rw [List.append_nil] at run
  rw [batch, run]
  rfl

end Replay

/-- The tally is that of the fated outcomes in the order of the requests, up to order. -/
theorem Served.same_as_fated {fates : Fates} {workload : Workload} {model : String}
    {plan : BatchPlan} {rounds : List Round}
    (served : Served fates workload model plan.chunks rounds) :
    (Replay.batch workload model plan rounds).1.SameUpToOrder
      ((fates.outcomes (List.range' 1 plan.totalRequests)).foldl Tally.record .empty) := by
  rw [Replay.batch_eq served, ← plan.chunks_requestIds]
  exact Tally.foldl_record_perm served.outcomes_perm

end InferenceBench
