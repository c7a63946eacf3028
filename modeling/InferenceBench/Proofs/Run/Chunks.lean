import InferenceBench.Run.Chunks

/-! # The chunks of a batch

The chunks cut the numbers of a batch into consecutive pieces. Wherever the list of chunks is
split, the chunks before the split hold exactly the numbers below the first one after it.
-/

namespace InferenceBench

namespace Chunk

/-- A chunk between the numbers passed and the numbers to come. -/
structure Follows (size first total : Nat) (passed : List Chunk) (chunk : Chunk) : Prop where
  start_le : first ≤ chunk.first
  nonempty : chunk.first < chunk.stop
  stop_le : chunk.stop ≤ total
  short : chunk.stop ≤ chunk.first + size
  passed_numbers : passed.flatMap numbers = List.range' first (chunk.first - first)

theorem follows_of_split {size first total : Nat} {passed coming : List Chunk} {chunk : Chunk}
    (split : chunksFrom size first total = passed ++ chunk :: coming) :
    Follows size first total passed chunk ∧ (coming = [] → chunk.stop = total) := by
  induction passed generalizing first with
  | nil =>
      rw [chunksFrom] at split
      split at split
      · next inside =>
          simp only [List.nil_append, List.cons.injEq] at split
          obtain ⟨rfl, rest⟩ := split
          refine ⟨⟨Nat.le_refl _, ?_, Nat.min_le_right _ _, Nat.min_le_left _ _, by simp⟩, ?_⟩
          · simp only [Nat.lt_min]
            omega
          · rintro rfl
            rw [chunksFrom] at rest
            simp only [dite_eq_right_iff, reduceCtorEq, imp_false] at rest
            simp only
            omega
      · simp at split
  | cons head passed ih =>
      rw [chunksFrom] at split
      split at split
      · next inside =>
          simp only [List.cons_append, List.cons.injEq] at split
          obtain ⟨rfl, rest⟩ := split
          obtain ⟨follows, last⟩ := ih rest
          have below : first + size ≤ total :=
            Nat.le_of_lt (Nat.lt_of_le_of_lt follows.start_le
              (Nat.lt_of_lt_of_le follows.nonempty follows.stop_le))
          refine ⟨⟨by have := follows.start_le; omega, follows.nonempty, follows.stop_le,
            follows.short, ?_⟩, last⟩
          rw [List.flatMap_cons, follows.passed_numbers, numbers, Nat.min_eq_left below]
          have := follows.start_le
          rw [Nat.add_sub_cancel_left, List.range'_append_1]
          congr 1
          omega
      · simp at split

theorem stops_increasing (size first total : Nat) :
    ((chunksFrom size first total).map stop).Pairwise (· < ·) := by
  fun_induction chunksFrom size first total with
  | case1 first inside ih =>
      refine List.pairwise_cons.mpr ⟨?_, ih⟩
      intro later among
      obtain ⟨chunk, member, rfl⟩ := List.mem_map.mp among
      obtain ⟨passed, coming, split⟩ := List.append_of_mem member
      obtain ⟨follows, -⟩ := follows_of_split split
      have := follows.start_le
      have := follows.nonempty
      simp only
      omega
  | case2 => exact List.Pairwise.nil

/-- The ids of the requests of a chunk; requests are counted from one. -/
def requestIds (chunk : Chunk) : List Nat := chunk.numbers.map (· + 1)

theorem numbers_append {size first total : Nat} {passed : List Chunk} {chunk : Chunk}
    (follows : Follows size first total passed chunk) :
    (passed ++ [chunk]).flatMap numbers = List.range' first (chunk.stop - first) := by
  rw [List.flatMap_append, follows.passed_numbers, List.flatMap_singleton, numbers]
  have := follows.start_le
  have := follows.nonempty
  rw [show chunk.first = first + (chunk.first - first) by omega]
  rw [Nat.add_sub_cancel_left, List.range'_append_1]
  congr 1
  omega

end Chunk

namespace BatchPlan

theorem follows_of_split {plan : BatchPlan} {passed coming : List Chunk} {chunk : Chunk}
    (split : plan.chunks = passed ++ chunk :: coming) :
    Chunk.Follows (max plan.concurrency 1) 0 plan.totalRequests passed chunk ∧
      (coming = [] → chunk.stop = plan.totalRequests) :=
  Chunk.follows_of_split split

theorem chunks_numbers (plan : BatchPlan) :
    plan.chunks.flatMap Chunk.numbers = List.range plan.totalRequests := by
  rcases List.eq_nil_or_concat plan.chunks with none | ⟨passed, chunk, split⟩
  · have : plan.totalRequests = 0 := by
      rw [chunks, Chunk.chunksFrom] at none
      simp only [dite_eq_right_iff, reduceCtorEq, imp_false] at none
      omega
    simp [none, this]
  · rw [List.concat_eq_append] at split
    obtain ⟨follows, last⟩ := follows_of_split split
    rw [split, Chunk.numbers_append follows, last rfl, List.range_eq_range', Nat.sub_zero]

theorem requestIds_of_numbers {chunks : List Chunk} {count : Nat}
    (numbers : chunks.flatMap Chunk.numbers = List.range' 0 count) :
    chunks.flatMap Chunk.requestIds = List.range' 1 count := by
  unfold Chunk.requestIds
  rw [← List.map_flatMap, numbers, List.range'_eq_map_range, List.range'_eq_map_range,
    List.map_map]
  simp [Function.comp_def, Nat.add_comm]

/-- Chunk after chunk, all requests have their turn once. -/
theorem chunks_requestIds (plan : BatchPlan) :
    plan.chunks.flatMap Chunk.requestIds = List.range' 1 plan.totalRequests :=
  requestIds_of_numbers (by rw [plan.chunks_numbers, List.range_eq_range'])

section

variable {plan : BatchPlan} {passed coming : List Chunk} {chunk : Chunk}

theorem requestIds_before (split : plan.chunks = passed ++ chunk :: coming) :
    passed.flatMap Chunk.requestIds = List.range' 1 chunk.first :=
  requestIds_of_numbers (follows_of_split split).1.passed_numbers

theorem requestIds_through (split : plan.chunks = passed ++ chunk :: coming) :
    (passed ++ [chunk]).flatMap Chunk.requestIds = List.range' 1 chunk.stop :=
  requestIds_of_numbers (Chunk.numbers_append (follows_of_split split).1)

/-- A request has its turn in one chunk only. -/
theorem not_mem_before (split : plan.chunks = passed ++ chunk :: coming) {requestId : Nat}
    (member : requestId ∈ chunk.requestIds) {earlier : Chunk} (before : earlier ∈ passed) :
    requestId ∉ earlier.requestIds := by
  intro also
  have below : requestId ∈ passed.flatMap Chunk.requestIds :=
    List.mem_flatMap.mpr ⟨earlier, before, also⟩
  rw [requestIds_before split, List.mem_range'_1] at below
  simp only [Chunk.requestIds, Chunk.numbers, List.mem_map, List.mem_range'_1] at member
  omega

theorem passed_unique (split : plan.chunks = passed ++ chunk :: coming) {others later : List Chunk}
    {other : Chunk} (also : plan.chunks = others ++ other :: later) {requestId : Nat}
    (member : requestId ∈ chunk.requestIds) (inOther : requestId ∈ other.requestIds) :
    others = passed := by
  rcases List.append_eq_append_iff.mp (split.symm.trans also) with
    ⟨between, rfl, rest⟩ | ⟨between, rfl, rest⟩
  · cases between with
    | nil => simp
    | cons first between =>
        obtain ⟨rfl, -⟩ := List.cons.inj rest
        exact absurd member (not_mem_before also inOther (by simp))
  · cases between with
    | nil => simp
    | cons first between =>
        obtain ⟨rfl, -⟩ := List.cons.inj rest
        exact absurd inOther (not_mem_before split member (by simp))

theorem length_numbers_le (split : plan.chunks = passed ++ chunk :: coming) :
    chunk.numbers.length ≤ max plan.concurrency 1 := by
  have short := (follows_of_split split).1.short
  rw [Chunk.numbers, List.length_range']
  omega

end

theorem stops_increasing (plan : BatchPlan) : (plan.chunks.map Chunk.stop).Pairwise (· < ·) :=
  Chunk.stops_increasing _ _ _

theorem last_stop {plan : BatchPlan} (some_ : 0 < plan.totalRequests) :
    (plan.chunks.map Chunk.stop).getLast? = some plan.totalRequests := by
  rcases List.eq_nil_or_concat plan.chunks with none | ⟨passed, chunk, split⟩
  · have numbers := plan.chunks_numbers
    rw [none, List.flatMap_nil, eq_comm, List.range_eq_nil] at numbers
    omega
  · rw [List.concat_eq_append] at split
    rw [split, List.map_append, List.map_singleton, List.getLast?_concat,
      (follows_of_split split).2 rfl]

end BatchPlan

end InferenceBench
