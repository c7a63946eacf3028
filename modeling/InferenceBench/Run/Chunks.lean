/-! # Chunks

A batch of requests is sent in chunks: consecutive ranges, each as long as the concurrency allows,
the last one perhaps shorter. -/

namespace InferenceBench

/-- The numbers from `first` on, below `stop`. -/
structure Chunk where
  first : Nat
  stop : Nat
  deriving Repr, DecidableEq

namespace Chunk

/-- The chunks of the numbers from `first` on, below `total`. -/
def chunksFrom (size first total : Nat) : List Chunk :=
  if _h : first < total ∧ 0 < size then
    ⟨first, min (first + size) total⟩ :: chunksFrom size (first + size) total
  else []
  termination_by total - first
  decreasing_by omega

/-- The numbers of a chunk in increasing order. -/
def numbers (chunk : Chunk) : List Nat := List.range' chunk.first (chunk.stop - chunk.first)

end Chunk

/-- How many requests to send, and how many of them may be under way at once. -/
structure BatchPlan where
  totalRequests : Nat
  concurrency : Nat
  deriving Repr, DecidableEq

/-- The chunks of the plan; a concurrency of zero counts as one. -/
def BatchPlan.chunks (plan : BatchPlan) : List Chunk :=
  Chunk.chunksFrom (max plan.concurrency 1) 0 plan.totalRequests

end InferenceBench
