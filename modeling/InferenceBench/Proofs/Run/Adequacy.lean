import InferenceBench.Proofs.Run.Interleaving

/-! # Interleavings and rounds

The interleavings of a batch and the rounds that serve it are the same runs. An interleaving that
has come to its end leaves a round for each chunk, and the batch that replays them has the
same tally, calls and events. Conversely each list of rounds comes from an interleaving: the one
that starts all tasks of a chunk, sends their calls, ends them, and joins them as the round says.
-/

namespace InferenceBench.Interleaving

/-- The round of a chunk that is recorded. -/
def Past.round (fates : Fates) (past : Past) : Round :=
  ⟨past.started.map Task.number, past.joined.map (Task.ending fates)⟩

namespace Past.Sound

variable {batch : Batch} {past : Past}

theorem tasks_round (sound : past.Sound batch) :
    (past.round batch.fates).tasks (batch.calls past.chunk) = past.started := by
  rw [Round.tasks, round, ← sound.calls, List.zip_map', List.map_map]
  exact List.map_id _

theorem serves (sound : past.Sound batch) :
    (past.round batch.fates).Serves batch.fates (batch.calls past.chunk) where
  length := by rw [round, ← sound.calls, List.length_map, List.length_map]
  distinct := sound.distinct
  endings := by
    rw [sound.tasks_round]
    exact sound.joined.map _

theorem attributed_round (sound : past.Sound batch) :
    (past.round batch.fates).attributed (batch.calls past.chunk) =
      past.joined.map (·.call.ending batch.fates) := by
  rw [Round.attributed, sound.tasks_round, round, List.map_map]
  exact List.map_congr_left fun task joined =>
    attributed_notes sound.distinct (sound.joined.subset joined)

end Past.Sound

section

variable {batch : Batch} {history : List Past}

theorem served_of_past (past : ∀ past ∈ history, past.Sound batch) :
    Served batch.fates batch.workload batch.model (history.map Past.chunk)
      (history.map (Past.round batch.fates)) := by
  induction history with
  | nil => exact .nil
  | cons first history ih =>
      obtain ⟨sound, past⟩ := List.forall_mem_cons.mp past
      exact .cons sound.serves (ih past)

theorem doneChunks_of_past (past : ∀ past ∈ history, past.Sound batch) :
    doneChunks batch.workload batch.model (history.map Past.chunk)
      (history.map (Past.round batch.fates)) = history.map (Past.done batch.fates) := by
  induction history with
  | nil => rfl
  | cons first history ih =>
      obtain ⟨sound, past⟩ := List.forall_mem_cons.mp past
      have first := sound.attributed_round
      simp only [doneChunks, Batch.calls] at ih first
      simp only [doneChunks, List.map_cons, List.zipWith_cons_cons, ih past, first, Past.done]

end

/-- An interleaving that is over has the result of the batch that replays its rounds. -/
theorem replay_of_final {batch : Batch} {state : State} (reachable : batch.Reachable state)
    (final : state.Final) :
    let rounds := state.history.map (Past.round batch.fates)
    Served batch.fates batch.workload batch.model batch.plan.chunks rounds ∧
      Replay.batch batch.workload batch.model batch.plan rounds =
        (state.tally, ⟨[], batch.plan.chunks.flatMap batch.calls, state.events⟩) := by
  have inv := Inv.of_reachable reachable
  have chunks := inv.chunks
  have events := inv.events
  rw [final.idle, final.none, Stage.current, List.append_nil, List.append_nil] at chunks
  rw [final.idle, Stage.unreported, List.map_nil, List.append_nil] at events
  have served := served_of_past inv.past
  have done := doneChunks_of_past inv.past
  change Served _ _ _ state.completed _ at served
  change doneChunks _ _ state.completed _ = state.done batch at done
  rw [chunks] at served done
  refine ⟨served, ?_⟩
  rw [Replay.batch_eq served, done, ← inv.tally, events]
  rfl

section

variable {batch : Batch} {stage : Stage} {coming : List Chunk} {tally : Tally}
  {events : List Event} {history : List Past} {requests : TaskRequests} {started : List Task}

theorem spawns {chunk : Chunk} {old tasks : List Task}
    (distinct : ((old ++ tasks).map Task.number).Nodup) :
    batch.Steps
      ⟨.working chunk (tasks.map Task.call), coming, ⟨notes old, old, old, [], [], [], []⟩, tally,
        events, history⟩
      ⟨.working chunk [], coming,
        ⟨notes (old ++ tasks), old ++ tasks, old ++ tasks, [], [], [], []⟩, tally, events,
        history⟩ := by
  induction tasks generalizing old with
  | nil =>
      rw [List.append_nil]
      exact .refl
  | cons task tasks ih =>
      rw [List.append_cons] at distinct ⊢
      have fresh : task.number ∉ old.map Task.number := by
        rw [List.map_append, List.map_append, List.append_assoc] at distinct
        exact fun member => List.disjoint_of_nodup_append distinct member (by simp)
      refine .head ⟨_, .spawn rfl fresh⟩ ?_
      have noted : task.note :: notes old = notes (old ++ [task]) := by simp [notes]
      simp only [Pool.spawn, noted]
      exact ih distinct

theorem dispatches {waiting underWay : List Task} :
    batch.Steps
      ⟨stage, coming, ⟨requests, started, waiting, underWay, [], [], []⟩, tally, events, history⟩
      ⟨stage, coming, ⟨requests, started, [], underWay ++ waiting, [], [], []⟩, tally, events,
        history⟩ := by
  induction waiting generalizing underWay with
  | nil => rw [List.append_nil]
  | cons task waiting ih =>
      refine .head ⟨_, .dispatch List.mem_cons_self⟩ ?_
      simp only [Pool.dispatch, List.erase_cons_head]
      rw [List.append_cons underWay task waiting]
      exact ih

theorem finishes {underWay ended : List Task} :
    batch.Steps
      ⟨stage, coming, ⟨requests, started, [], underWay, ended, [], []⟩, tally, events, history⟩
      ⟨stage, coming, ⟨requests, started, [], [], ended ++ underWay, [], []⟩, tally, events,
        history⟩ := by
  induction underWay generalizing ended with
  | nil => rw [List.append_nil]
  | cons task underWay ih =>
      refine .head ⟨_, .finish List.mem_cons_self⟩ ?_
      simp only [Pool.finish, List.erase_cons_head]
      rw [List.append_cons ended task underWay]
      exact ih

theorem joins {chunk : Chunk} {ended joined order : List Task} {endings : List Ending}
    (same : order.Perm ended) :
    batch.Steps
      ⟨.working chunk [], coming, ⟨requests, started, [], [], ended, joined, endings⟩, tally,
        events, history⟩
      ⟨.working chunk [], coming,
        ⟨requests, started, [], [], [], joined ++ order,
          endings ++ order.map fun task => (task.ending batch.fates).attributed requests⟩,
        tally, events, history⟩ := by
  induction order generalizing ended joined endings with
  | nil =>
      obtain rfl := List.nil_perm.mp same
      simp only [List.map_nil, List.append_nil]
      exact .refl
  | cons task order ih =>
      refine .head ⟨_, .join rfl (same.subset List.mem_cons_self)⟩ ?_
      rw [List.map_cons, List.append_cons joined, List.append_cons endings]
      exact ih (List.cons_perm_iff_perm_erase.mp same).2

theorem chunk_steps {chunk : Chunk} {round : Round}
    (serves : round.Serves batch.fates (batch.calls chunk)) :
    ∃ tally' events' past, past.round batch.fates = round ∧
      batch.Steps ⟨.between, chunk :: coming, .empty, tally, events, history⟩
        ⟨.between, coming, .empty, tally', events', history ++ [past]⟩ := by
  obtain ⟨joined, endings, same⟩ := Eq.mpr
    (congrFun (congrFun (List.eq_map_comp_perm (Task.ending batch.fates)) _) _) serves.endings
  have numbers := Round.map_number_tasks serves.length
  have calls := Round.map_call_tasks serves.length
  have distinct : (([] ++ round.tasks (batch.calls chunk)).map Task.number).Nodup := by
    rw [List.nil_append, numbers]
    exact serves.distinct
  have spawned := @spawns batch coming tally events history chunk _ _ distinct
  rw [calls] at spawned
  have begun : batch.Steps ⟨.between, chunk :: coming, .empty, tally, events, history⟩ _ :=
    .head ⟨_, .begin rfl rfl⟩ spawned
  have all := ((begun.trans dispatches).trans finishes).trans (joins same)
  exact ⟨_, _, ⟨chunk, round.tasks (batch.calls chunk), joined⟩,
    by rw [Past.round, numbers, ← endings],
    (all.tail ⟨_, .record rfl rfl⟩).tail ⟨_, .report rfl⟩⟩

theorem chunks_steps {chunks : List Chunk} {rounds : List Round}
    (served : Served batch.fates batch.workload batch.model chunks rounds) :
    ∃ tally' events' history', history'.map (Past.round batch.fates) = rounds ∧
      batch.Steps ⟨.between, chunks, .empty, tally, events, history⟩
        ⟨.between, [], .empty, tally', events', history ++ history'⟩ := by
  induction served generalizing tally events history with
  | nil => exact ⟨tally, events, [], rfl, by rw [List.append_nil]⟩
  | cons serves _ ih =>
      obtain ⟨tally', events', past, replays, first⟩ := chunk_steps serves
      obtain ⟨tally'', events'', history', others, rest⟩ := @ih tally' events' (history ++ [past])
      rw [← List.append_cons] at rest
      exact ⟨tally'', events'', past :: history', by rw [List.map_cons, replays, others],
        first.trans rest⟩

end

/-- Each list of rounds that serves a batch is the one that some interleaving leaves. -/
theorem final_of_served {batch : Batch} {rounds : List Round}
    (served : Served batch.fates batch.workload batch.model batch.plan.chunks rounds) :
    ∃ state, batch.Reachable state ∧ state.Final ∧
      state.history.map (Past.round batch.fates) = rounds := by
  obtain ⟨_, _, history, replays, steps⟩ := chunks_steps served
  exact ⟨_, steps, ⟨rfl, rfl⟩, replays⟩

end InferenceBench.Interleaving
