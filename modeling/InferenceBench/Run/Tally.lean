import InferenceBench.Run.Outcome

/-! # Tallies

A tally sums up the outcomes of one workload. Only successes count towards tokens and latencies;
of a failure its request and its reason are kept. The latency statistics are order statistics of
the sorted latencies. -/

namespace InferenceBench

structure Failure where
  requestId : Nat
  error : String
  deriving Repr, DecidableEq

structure Tally where
  promptTokens : Nat
  completionTokens : Nat
  wallTime : Span
  successful : Nat
  failed : Nat
  /-- The latencies of the successes in the order of recording. -/
  latencies : List Span
  /-- The failures in the order of recording. -/
  failures : List Failure
  deriving Repr, DecidableEq

/-- The index of a quantile in a sorted list of the given length: the quantile of the length, cut
to an integer, but never beyond the last index. -/
def percentileIndex? (length : Nat) (quantile : Float) : Option Nat :=
  if length = 0 then none
  else
    let clamped := if quantile < 0 then 0 else if 1 < quantile then 1 else quantile
    some (min (Float.ofNat length * clamped).toUInt64.toNat (length - 1))

/-- The element of a sorted list at a quantile. -/
def percentile? (sorted : List Span) (quantile : Float) : Option Span :=
  (percentileIndex? sorted.length quantile).bind fun index => sorted[index]?

/-- The middle element of a sorted list, or the mean of the two middle ones. -/
def median? (sorted : List Span) : Option Span :=
  let middle := sorted.length / 2
  if sorted.length % 2 = 1 then sorted[middle]?
  else
    match sorted[middle - 1]?, sorted[middle]? with
    | some a, some b => some (a.mean b)
    | _, _ => none

namespace Tally

def empty : Tally := ⟨0, 0, .zero, 0, 0, [], []⟩

def record (tally : Tally) (outcome : Outcome) : Tally :=
  if outcome.success then
    { tally with
      successful := tally.successful + 1
      promptTokens := tally.promptTokens + outcome.promptTokens
      completionTokens := tally.completionTokens + outcome.completionTokens
      latencies := tally.latencies ++ [outcome.latency] }
  else
    { tally with
      failed := tally.failed + 1
      failures :=
        tally.failures ++ [⟨outcome.requestId, outcome.error.getD "unknown error"⟩] }

/-- Sets the wall time of the whole workload. -/
def finish (tally : Tally) (wallTime : Span) : Tally := { tally with wallTime }

def totalRequests (tally : Tally) : Nat := tally.successful + tally.failed

def totalTokens (tally : Tally) : Nat := tally.promptTokens + tally.completionTokens

/-- How many per second; zero if no time has passed. -/
def rate (count : Nat) (elapsed : Span) : Float :=
  if 0 < elapsed.seconds then Float.ofNat count / elapsed.seconds else 0

def promptRate (tally : Tally) : Float := rate tally.promptTokens tally.wallTime

def completionRate (tally : Tally) : Float := rate tally.completionTokens tally.wallTime

def totalRate (tally : Tally) : Float := rate tally.totalTokens tally.wallTime

def sortedLatencies (tally : Tally) : List Span := tally.latencies.mergeSort Span.atMost

def medianLatency (tally : Tally) : Span := (median? tally.sortedLatencies).getD .zero

/-- The latency at a quantile, zero if there is none. -/
def latencyAt (tally : Tally) (quantile : Float) : Span :=
  (percentile? tally.sortedLatencies quantile).getD .zero

end Tally

end InferenceBench
