import InferenceBench.Proofs.Run.Chunks
import Mathlib.Algebra.Order.Floor.Div
import Mathlib.Data.List.Chain

/-! # The partition of a batch

The chunks of a batch stand at the multiples of their size, and the last one is cut at the end of
the batch. So they are consecutive pieces, as many as the batch needs, and each number of the batch
lies in one of them only.
-/

namespace InferenceBench

namespace Chunk

/-- Pieces of the numbers below `total`, one after the other, each of the full size except perhaps
the last one. -/
structure Partition (total size : Nat) (chunks : List Chunk) : Prop where
  count : chunks.length = total ⌈/⌉ size
  starts : ∀ chunk ∈ chunks.head?, chunk.first = 0
  meets : chunks.IsChain fun chunk next => next.first = chunk.stop
  ends : ∀ chunk ∈ chunks.getLast?, chunk.stop = total
  nonempty : ∀ chunk ∈ chunks, chunk.first < chunk.stop
  short : ∀ chunk ∈ chunks, chunk.stop ≤ chunk.first + size
  full : ∀ chunk ∈ chunks.dropLast, chunk.stop = chunk.first + size
  /-- A number lies in one chunk only, told apart by its place in the list. -/
  holds : ∀ number, number < total ↔
    ∃! index : Nat, ∃ chunk : Chunk, chunks[index]? = some chunk ∧ number ∈ chunk.numbers

/-- The chunk at a place in a batch. -/
def atIndex (size total index : Nat) : Chunk := ⟨index * size, min ((index + 1) * size) total⟩

theorem mem_numbers {chunk : Chunk} {number : Nat} :
    number ∈ chunk.numbers ↔ chunk.first ≤ number ∧ number < chunk.stop := by
  rw [numbers, List.mem_range'_1]
  omega

theorem stop_atIndex {size total index : Nat} (within : (index + 1) * size ≤ total) :
    (atIndex size total index).stop = (index + 1) * size :=
  Nat.min_eq_left within

section

variable {size : Nat} (positive : 0 < size)
include positive

theorem lt_ceilDiv_iff {index total : Nat} : index < total ⌈/⌉ size ↔ index * size < total := by
  rw [← not_le, ceilDiv_le_iff_le_mul positive, not_le, Nat.mul_comm]

theorem ceilDiv_of_lt {first total : Nat} (below : first < total) :
    (total - first) ⌈/⌉ size = (total - (first + size)) ⌈/⌉ size + 1 := by
  rw [Nat.ceilDiv_eq_add_pred_div, Nat.ceilDiv_eq_add_pred_div, ← Nat.add_div_right _ positive]
  rcases Nat.le_total (first + size) total with fits | cut
  · congr 1
    omega
  · rw [Nat.div_eq_of_lt_le (k := 1), Nat.div_eq_of_lt_le (k := 1)] <;> omega

theorem chunksFrom_eq (first total : Nat) :
    chunksFrom size first total = (List.range ((total - first) ⌈/⌉ size)).map fun index =>
      ⟨first + index * size, min (first + (index + 1) * size) total⟩ := by
  fun_induction chunksFrom size first total with
  | case1 first inside ih =>
      rw [ih, ceilDiv_of_lt positive inside.1, List.range_succ_eq_map, List.map_cons, List.map_map]
      congr 1
      · simp
      · refine List.map_congr_left fun index _ => ?_
        simp only [Function.comp_apply, Nat.succ_eq_add_one]
        congr 1 <;> grind
  | case2 first outside =>
      have none : total - first = 0 := by omega
      simp [none]

theorem mem_numbers_atIndex {total index number : Nat} (below : number < total) :
    number ∈ (atIndex size total index).numbers ↔ index = number / size := by
  rw [mem_numbers, atIndex, Nat.lt_min, eq_comm, Nat.div_eq_iff positive]
  grind

theorem getElem?_pieces {total index : Nat} {chunk : Chunk} :
    ((List.range (total ⌈/⌉ size)).map (atIndex size total))[index]? = some chunk ↔
      index * size < total ∧ atIndex size total index = chunk := by
  simp [List.getElem?_eq_some_iff, lt_ceilDiv_iff positive]

theorem partition_pieces (total : Nat) :
    Partition total size ((List.range (total ⌈/⌉ size)).map (atIndex size total)) := by
  have count : ((List.range (total ⌈/⌉ size)).map (atIndex size total)).length =
      total ⌈/⌉ size := by
    rw [List.length_map, List.length_range]
  have place : ∀ chunk ∈ (List.range (total ⌈/⌉ size)).map (atIndex size total),
      ∃ index, index * size < total ∧ atIndex size total index = chunk := by
    intro chunk member
    obtain ⟨index, found⟩ := List.mem_iff_getElem?.mp member
    exact ⟨index, (getElem?_pieces positive).mp found⟩
  constructor
  case count => exact count
  case starts =>
    intro chunk first
    rw [List.head?_eq_getElem?] at first
    obtain ⟨-, rfl⟩ := (getElem?_pieces positive).mp first
    exact Nat.zero_mul size
  case meets =>
    rw [List.isChain_iff_getElem]
    intro index next
    rw [count, lt_ceilDiv_iff positive] at next
    simp only [List.getElem_map, List.getElem_range, stop_atIndex next.le]
    rfl
  case ends =>
    intro chunk last
    rw [List.getLast?_eq_getElem?, count] at last
    obtain ⟨below, rfl⟩ := (getElem?_pieces positive).mp last
    have some : total ⌈/⌉ size - 1 < total ⌈/⌉ size := (lt_ceilDiv_iff positive).mpr below
    have beyond : ¬ total ⌈/⌉ size * size < total :=
      mt (lt_ceilDiv_iff positive).mpr (Nat.lt_irrefl _)
    refine Nat.min_eq_right ?_
    rw [Nat.sub_add_cancel (by omega)]
    exact Nat.not_lt.mp beyond
  case nonempty =>
    intro chunk member
    obtain ⟨index, below, rfl⟩ := place chunk member
    simp only [atIndex, Nat.lt_min, Nat.succ_mul]
    omega
  case short =>
    intro chunk member
    obtain ⟨index, below, rfl⟩ := place chunk member
    simp only [atIndex, Nat.succ_mul]
    omega
  case full =>
    intro chunk member
    obtain ⟨index, found⟩ := List.mem_iff_getElem?.mp member
    rw [List.getElem?_dropLast, count] at found
    split at found
    · next before =>
        obtain ⟨-, rfl⟩ := (getElem?_pieces positive).mp found
        have within : (index + 1) * size < total := (lt_ceilDiv_iff positive).mp (by omega)
        rw [stop_atIndex within.le, Nat.succ_mul]
        rfl
    · cases found
  case holds =>
    intro number
    constructor
    · intro below
      have within : number / size * size < total :=
        (Nat.div_mul_le_self number size).trans_lt below
      refine ⟨number / size, ⟨atIndex size total (number / size),
        (getElem?_pieces positive).mpr ⟨within, rfl⟩,
        (mem_numbers_atIndex positive below).mpr rfl⟩, ?_⟩
      rintro index ⟨chunk, found, member⟩
      obtain ⟨-, rfl⟩ := (getElem?_pieces positive).mp found
      exact (mem_numbers_atIndex positive below).mp member
    · rintro ⟨index, ⟨chunk, found, member⟩, -⟩
      obtain ⟨-, rfl⟩ := (getElem?_pieces positive).mp found
      exact (mem_numbers.mp member).2.trans_le (Nat.min_le_right _ _)

end

end Chunk

/-- The chunks of a batch are the partition of its numbers into pieces of the size that the
concurrency allows. -/
theorem BatchPlan.chunks_partition (plan : BatchPlan) :
    Chunk.Partition plan.totalRequests (max plan.concurrency 1) plan.chunks := by
  have positive : 0 < max plan.concurrency 1 := by omega
  have pieces := Chunk.chunksFrom_eq positive 0 plan.totalRequests
  simp only [Nat.sub_zero, Nat.zero_add] at pieces
  rw [chunks, pieces]
  exact Chunk.partition_pieces positive plan.totalRequests

end InferenceBench
