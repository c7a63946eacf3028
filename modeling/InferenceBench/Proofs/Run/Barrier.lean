import InferenceBench.Proofs.Run.Interleaving
import Mathlib.Data.Fintype.EquivFin

/-! # Chunk after chunk

In each interleaving the tasks in flight belong to one chunk, and the chunks before it are recorded
as a whole. So progress is told when exactly the requests up to a number are recorded. No
interleaving gets stuck or goes on forever.
-/

namespace InferenceBench

/-- The number of requests that an event tells are done. -/
def Event.progress? : Event → Option Nat
  | .chunkDone _ done _ => some done
  | _ => none

namespace Interleaving

namespace State

/-- The ids of the requests that are recorded, in the order of recording. -/
def recordedIds (state : State) : List Nat := state.recorded.map (·.call.requestId)

/-- The numbers of the progress lines. -/
def progress (state : State) : List Nat := state.events.filterMap Event.progress?

end State

theorem no_progress_told (endings : List Ending) :
    (endings.flatMap Ending.told).filterMap Event.progress? = [] := by
  rw [List.filterMap_eq_nil_iff]
  intro event told
  obtain ⟨ending, -, told⟩ := List.mem_flatMap.mp told
  unfold Ending.told at told
  split at told
  · rw [List.mem_singleton.mp told]
    rfl
  · simp at told

theorem progress_told (workload : Workload) (total : Nat) (done : DoneChunk) :
    (done.told workload total).filterMap Event.progress? = [done.chunk.stop] := by
  rw [DoneChunk.told, List.filterMap_append, no_progress_told]
  rfl

theorem calls_of_past {batch : Batch} {history : List Past}
    (past : ∀ past ∈ history, past.Sound batch) :
    ((history.flatMap Past.joined).map Task.call).Perm
      ((history.map Past.chunk).flatMap batch.calls) := by
  induction history with
  | nil => exact .refl _
  | cons first history ih =>
      obtain ⟨sound, past⟩ := List.forall_mem_cons.mp past
      simp only [List.flatMap_cons, List.map_append, List.map_cons]
      refine List.Perm.append ?_ (ih past)
      rw [← sound.calls]
      exact sound.joined.map _

namespace Inv

variable {batch : Batch} {state : State}

theorem recorded_ids (inv : Inv batch state) :
    state.recordedIds.Perm (state.completed.flatMap Chunk.requestIds) := by
  have ids := (calls_of_past inv.past).map Call.requestId
  simpa only [State.recordedIds, State.recorded, State.completed, List.map_map,
    List.map_flatMap, Function.comp_def, Batch.calls, Workload.calls_requestIds] using ids

theorem tally_recorded (inv : Inv batch state) :
    state.tally = (batch.fates.outcomes state.recordedIds).foldl Tally.record .empty := by
  rw [inv.tally]
  congr 1
  simp only [State.done, Fates.outcomes, State.recordedIds, State.recorded, List.flatMap_map,
    List.map_map, List.map_flatMap]
  exact List.flatMap_congr fun past _ => by
    simp [Past.done, DoneChunk.outcomes, Call.ending, Fate.outcome]

/-- The chunk under way stands between the chunks completed and those to come. -/
theorem split (inv : Inv batch state) {chunk : Chunk} {left : List Call}
    (working : state.stage = .working chunk left) :
    batch.plan.chunks = state.completed ++ chunk :: state.coming := by
  have chunks := inv.chunks
  rw [working, Stage.current, List.append_assoc] at chunks
  exact chunks.symm

theorem working_of_started (inv : Inv batch state) {task : Task}
    (started : task ∈ state.pool.started) :
    ∃ chunk left, state.stage = .working chunk left ∧ task.call ∈ batch.calls chunk := by
  cases stage : state.stage with
  | working chunk left =>
      have calls := inv.calls
      rw [stage, Stage.current, List.flatMap_singleton] at calls
      exact ⟨chunk, left, rfl, by rw [← calls]; simp [started, List.mem_map_of_mem]⟩
  | between | reporting =>
      rw [inv.none_started (by rw [stage]; rfl)] at started
      simp at started

theorem length_inFlight_le (inv : Inv batch state) :
    state.pool.inFlight.length ≤ max batch.plan.concurrency 1 := by
  have tasks := inv.pool.tasks.length_eq
  rw [List.length_append] at tasks
  rcases List.eq_nil_or_concat state.pool.started with none | ⟨_, task, some⟩
  · rw [none, List.length_nil] at tasks
    omega
  · have started : task ∈ state.pool.started := by simp [some]
    obtain ⟨chunk, left, working, -⟩ := inv.working_of_started started
    have calls := congrArg List.length inv.calls
    rw [working, Stage.current, List.flatMap_singleton, List.length_append, List.length_map,
      Batch.calls, Workload.calls, List.length_map] at calls
    have short := BatchPlan.length_numbers_le (inv.split working)
    omega

/-- All progress is told but that of a chunk just recorded. -/
theorem progress_eq (inv : Inv batch state) :
    state.progress ++ state.stage.unreported.map Chunk.stop =
      state.completed.map Chunk.stop := by
  have pending : (state.stage.unreported.map batch.progress).filterMap Event.progress? =
      state.stage.unreported.map Chunk.stop := by
    rw [List.filterMap_map]
    exact congrFun List.filterMap_eq_map _
  have told := congrArg (List.filterMap Event.progress?) inv.events
  rw [List.filterMap_append, pending, List.filterMap_cons, List.filterMap_flatMap] at told
  simp only [progress_told, ← List.map_eq_flatMap, State.done, List.map_map] at told
  rw [State.completed, List.map_map]
  exact told

theorem progress_increasing (inv : Inv batch state) : state.progress.Pairwise (· < ·) := by
  have increasing := batch.plan.stops_increasing
  rw [← inv.chunks, List.append_assoc, List.map_append, ← inv.progress_eq,
    List.append_assoc] at increasing
  exact (List.pairwise_append.mp increasing).1

/-- A chunk is reported when it and the chunks before it are recorded, and no others are. -/
theorem recorded_of_reporting (inv : Inv batch state) {chunk : Chunk}
    (reporting : state.stage = .reporting chunk) :
    state.recordedIds.Perm (List.range' 1 chunk.stop) := by
  obtain ⟨reported, completed⟩ := inv.unreported
  rw [reporting, Stage.unreported] at completed
  have split := inv.chunks
  rw [← completed, reporting, Stage.current, List.append_nil, List.append_assoc] at split
  refine inv.recorded_ids.trans (List.Perm.of_eq ?_)
  rw [← completed, BatchPlan.requestIds_through split.symm]

theorem progress_step (inv : Inv batch state) {action : Action} {after : State}
    (step : batch.Step action state after) :
    after.progress = state.progress ∨
      ∃ done,
        after.events = state.events ++
          [.chunkDone batch.workload.kind.label done batch.plan.totalRequests] ∧
        state.recordedIds.Perm (List.range' 1 done) := by
  cases step with
  | begin | spawn | dispatch | finish | join => exact .inl rfl
  | record =>
      left
      simp only [State.progress, List.filterMap_append, no_progress_told, List.append_nil]
  | @report _ chunk reporting => exact .inr ⟨chunk.stop, rfl, inv.recorded_of_reporting reporting⟩

theorem started_of_dispatch (inv : Inv batch state) {task : Task} {after : State}
    (step : batch.Step (.dispatch task) state after) : task ∈ state.pool.started := by
  cases step with
  | dispatch waits => exact inv.pool.tasks.subset (by simp [Pool.inFlight, waits])

theorem planned_of_started (inv : Inv batch state) {task : Task}
    (started : task ∈ state.pool.started) :
    task.call.requestId ∈ List.range' 1 batch.plan.totalRequests := by
  obtain ⟨chunk, left, working, call⟩ := inv.working_of_started started
  rw [← batch.plan.chunks_requestIds, inv.split working, List.flatMap_append, List.flatMap_cons,
    ← Workload.calls_requestIds batch.workload batch.model chunk]
  simp only [List.mem_append]
  exact .inr (.inl (List.mem_map_of_mem call))

/-- A call is sent when all requests of the chunks before its own are recorded. -/
theorem recorded_before (inv : Inv batch state) {task : Task}
    (started : task ∈ state.pool.started) {passed coming : List Chunk} {chunk : Chunk}
    (split : batch.plan.chunks = passed ++ chunk :: coming)
    (member : task.call.requestId ∈ chunk.requestIds) :
    state.recordedIds.Perm (passed.flatMap Chunk.requestIds) := by
  obtain ⟨current, left, working, call⟩ := inv.working_of_started started
  have inCurrent : task.call.requestId ∈ current.requestIds := by
    rw [← Workload.calls_requestIds batch.workload batch.model]
    exact List.mem_map_of_mem call
  rw [BatchPlan.passed_unique (inv.split working) split inCurrent member]
  exact inv.recorded_ids

end Inv

/-! ## The end of an interleaving -/

/-- Nothing but the end of the batch stops an interleaving. -/
theorem final_of_stuck {batch : Batch} {state : State}
    (stuck : ∀ action after, ¬ batch.Step action state after) : state.Final := by
  cases stage : state.stage with
  | between =>
      cases coming : state.coming with
      | nil => exact ⟨stage, coming⟩
      | cons chunk later => exact absurd (.begin stage coming) (stuck _ _)
  | reporting chunk => exact absurd (.report stage) (stuck _ _)
  | working chunk left =>
      cases left with
      | cons call left =>
          obtain ⟨number, fresh⟩ :=
            Infinite.exists_notMem_finset (state.pool.started.map Task.number).toFinset
          rw [List.mem_toFinset] at fresh
          exact absurd (.spawn stage fresh) (stuck (.spawn ⟨number, call⟩) _)
      | nil =>
          have none : state.pool.inFlight = [] := by
            refine List.eq_nil_iff_forall_not_mem.mpr fun task inFlight => ?_
            simp only [Pool.inFlight, List.mem_append] at inFlight
            rcases inFlight with (waits | runs) | ends
            · exact stuck _ _ (.dispatch waits)
            · exact stuck _ _ (.finish runs)
            · exact stuck _ _ (.join stage ends)
          exact absurd (.record stage none) (stuck _ _)

/-- The steps that are left to the tasks in flight. -/
def Pool.work (pool : Pool) : Nat :=
  3 * pool.waiting.length + 2 * pool.underWay.length + pool.ended.length

/-- The steps that are left to a chunk and its tasks; each task has four. -/
def Stage.work : Stage → Nat
  | .between => 0
  | .reporting _ => 1
  | .working _ left => 4 * left.length + 2

namespace Batch

def chunkWork (batch : Batch) (chunk : Chunk) : Nat := 4 * (batch.calls chunk).length + 3

def work (batch : Batch) (state : State) : Nat :=
  (state.coming.map batch.chunkWork).sum + state.stage.work + state.pool.work

theorem work_step {batch : Batch} {action : Action} {before after : State}
    (step : batch.Step action before after) : batch.work after < batch.work before := by
  cases step with
  | begin idle next =>
      simp only [work, idle, next, Stage.work, List.map_cons, List.sum_cons, chunkWork]
      omega
  | spawn next =>
      simp only [work, next, Stage.work, Pool.work, Pool.spawn, List.length_append,
        List.length_cons, List.length_nil]
      omega
  | dispatch waits =>
      have := List.length_pos_of_mem waits
      simp only [work, Pool.work, Pool.dispatch, List.length_erase_of_mem waits,
        List.length_append, List.length_cons, List.length_nil]
      omega
  | finish runs =>
      have := List.length_pos_of_mem runs
      simp only [work, Pool.work, Pool.finish, List.length_erase_of_mem runs,
        List.length_append, List.length_cons, List.length_nil]
      omega
  | join _ ends =>
      have := List.length_pos_of_mem ends
      simp only [work, Pool.work, Pool.join, List.length_erase_of_mem ends]
      omega
  | record joining =>
      simp only [work, joining, Stage.work, Pool.work, Pool.empty, List.length_nil]
      omega
  | report reporting =>
      simp only [work, reporting, Stage.work]
      omega

theorem steps_end (batch : Batch) :
    WellFounded fun after before => ∃ action, batch.Step action before after :=
  Subrelation.wf (fun ⟨_, step⟩ => work_step step) (measure batch.work).wf

theorem steps_to_final (batch : Batch) (state : State) :
    ∃ last, batch.Steps state last ∧ last.Final := by
  induction state using batch.steps_end.induction with
  | _ state ih =>
      by_cases stuck : ∀ action after, ¬ batch.Step action state after
      · exact ⟨state, .refl, final_of_stuck stuck⟩
      · simp only [not_forall, not_not] at stuck
        obtain ⟨action, after, step⟩ := stuck
        obtain ⟨last, steps, final⟩ := ih after ⟨action, step⟩
        exact ⟨last, .head ⟨action, step⟩ steps, final⟩

end Batch

/-- At most one chunk is in flight, and it begins when the chunks before it are recorded. -/
theorem chunks_in_turn {batch : Batch} {state : State} (reachable : batch.Reachable state) :
    state.pool.inFlight.length ≤ max batch.plan.concurrency 1 ∧
    (∀ task after, batch.Step (.dispatch task) state after →
      task.call.requestId ∈ List.range' 1 batch.plan.totalRequests ∧
      ∀ passed chunk coming, batch.plan.chunks = passed ++ chunk :: coming →
        task.call.requestId ∈ chunk.requestIds →
        state.recordedIds.Perm (passed.flatMap Chunk.requestIds)) ∧
    state.completed ++ state.stage.current ++ state.coming = batch.plan.chunks ∧
    state.recordedIds.Perm (state.completed.flatMap Chunk.requestIds) ∧
    state.tally = (batch.fates.outcomes state.recordedIds).foldl Tally.record .empty ∧
    (∀ action after, batch.Step action state after →
      after.progress = state.progress ∨
      ∃ done,
        after.events = state.events ++
          [.chunkDone batch.workload.kind.label done batch.plan.totalRequests] ∧
        state.recordedIds.Perm (List.range' 1 done)) ∧
    state.progress.Pairwise (· < ·) ∧
    ((∀ action after, ¬ batch.Step action state after) → 0 < batch.plan.totalRequests →
      state.progress.getLast? = some batch.plan.totalRequests) := by
  have inv := Inv.of_reachable reachable
  refine ⟨inv.length_inFlight_le, ?_, inv.chunks, inv.recorded_ids, inv.tally_recorded,
    fun _ _ step => inv.progress_step step, inv.progress_increasing, ?_⟩
  · intro task after step
    have started := inv.started_of_dispatch step
    exact ⟨inv.planned_of_started started, fun _ _ _ split => inv.recorded_before started split⟩
  · intro stuck some
    obtain ⟨idle, none⟩ := final_of_stuck stuck
    have chunks := inv.chunks
    have progress := inv.progress_eq
    rw [idle, none, Stage.current, List.append_nil, List.append_nil] at chunks
    rw [idle, Stage.unreported, List.map_nil, List.append_nil, chunks] at progress
    rw [progress]
    exact BatchPlan.last_stop some

/-- Three requests, two at a time, that all succeed. -/
def threeRequests : Batch :=
  ⟨fun requestId => .returns (.succeeded requestId 10 1 ⟨5⟩ 1), ⟨.prefill, [], 1, ⟨9⟩⟩, "m",
    ⟨3, 2⟩⟩

/-- The task of a request of the first chunk. -/
def threeRequestsTask (requestId : Nat) : Task :=
  ⟨requestId, threeRequests.workload.call "m" requestId⟩

/-- Both tasks of the first chunk are in flight, and the second of them has ended. -/
def secondEnded : State :=
  { stage := .working ⟨0, 2⟩ []
    coming := [⟨2, 3⟩]
    pool :=
      { requests := [(2, 2), (1, 1)]
        started := [threeRequestsTask 1, threeRequestsTask 2]
        waiting := [threeRequestsTask 1]
        underWay := []
        ended := [threeRequestsTask 2]
        joined := []
        endings := [] }
    tally := .empty
    events := [threeRequests.started]
    history := [] }

theorem chunks_in_turn_secondEnded :
    threeRequests.Reachable secondEnded ∧ secondEnded.pool.inFlight.length = 2 ∧
      secondEnded.pool.inFlight.length ≤ max threeRequests.plan.concurrency 1 ∧
      secondEnded.tally = (threeRequests.fates.outcomes []).foldl Tally.record .empty := by
  have chunks : threeRequests.plan.chunks = [⟨0, 2⟩, ⟨2, 3⟩] := by
    simp [threeRequests, BatchPlan.chunks, Chunk.chunksFrom]
  have reachable : threeRequests.Reachable secondEnded := by
    unfold Batch.Reachable Batch.initial
    rw [chunks]
    refine .head ⟨.begin ⟨0, 2⟩, .begin rfl rfl⟩ ?_
    refine .head ⟨.spawn (threeRequestsTask 1), .spawn rfl (by decide)⟩ ?_
    refine .head ⟨.spawn (threeRequestsTask 2), .spawn rfl (by decide)⟩ ?_
    refine .head ⟨.dispatch (threeRequestsTask 2), .dispatch (by decide)⟩ ?_
    exact .single ⟨.finish (threeRequestsTask 2), .finish (by decide)⟩
  obtain ⟨bounded, -, -, -, tally, -⟩ := chunks_in_turn reachable
  exact ⟨reachable, rfl, bounded, tally⟩

end Interleaving

end InferenceBench
