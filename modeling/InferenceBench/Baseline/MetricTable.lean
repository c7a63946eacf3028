import InferenceBench.Json.Value
import InferenceBench.Text.Quoted

/-! # Metric tables

What a comparison says about each metric, in the order in which the metrics came first. -/

namespace InferenceBench

open Json

inductive MetricStatus where
  | pass
  | fail
  | improved
  | noBaseline
  deriving Repr, DecidableEq

namespace MetricStatus

def name : MetricStatus → String
  | .pass => "PASS"
  | .fail => "FAIL"
  | .improved => "IMPROVED"
  | .noBaseline => "NO_BASELINE"

/-- The mark in front of a line of the summary. -/
def symbol : MetricStatus → String
  | .pass => "✅"
  | .fail => "❌"
  | .improved => "🎉"
  | .noBaseline => "⚠️ "

/-- A change by `delta`, where a drop up to the threshold is allowed. -/
def classify (delta threshold : Float) : MetricStatus :=
  if delta < -threshold then .fail else if threshold < delta then .improved else .pass

end MetricStatus

structure MetricComparison where
  name : String
  current : Float
  baseline : Option Float
  delta : Option Float
  threshold : Option Float
  status : MetricStatus
  message : String
  deriving Repr, DecidableEq

def doubleOrNull : Option Float → Tree
  | some x => .ofDouble x
  | none => .null

/-- The metric as documents hold it; a missing threshold is left out. -/
def MetricComparison.tree (metric : MetricComparison) : Tree :=
  .object
    ([field "name" (.ofString metric.name), field "current" (.ofDouble metric.current),
      field "baseline" (doubleOrNull metric.baseline), field "delta" (doubleOrNull metric.delta)] ++
      (match metric.threshold with
        | some threshold => [field "threshold" (.ofDouble threshold)]
        | none => []) ++
      [field "status" (.ofString metric.status.name),
        field "message" (.ofString metric.message)])

/-- The metrics with their keys. -/
structure MetricTable where
  entries : List (String × MetricComparison)
  deriving Repr, DecidableEq

namespace MetricTable

def empty : MetricTable := ⟨[]⟩

/-- Sets the metric of a key in a list of entries: where the key is, or else at the end. -/
def insertEntry (key : String) (metric : MetricComparison) :
    List (String × MetricComparison) → List (String × MetricComparison)
  | [] => [(key, metric)]
  | (other, held) :: rest =>
    if other = key then (key, metric) :: rest else (other, held) :: insertEntry key metric rest

def insert (table : MetricTable) (key : String) (metric : MetricComparison) : MetricTable :=
  ⟨insertEntry key metric table.entries⟩

def get? (table : MetricTable) (key : String) : Option MetricComparison :=
  (table.entries.find? fun entry => entry.1 = key).map Prod.snd

def keys (table : MetricTable) : List String := table.entries.map Prod.fst

def size (table : MetricTable) : Nat := table.entries.length

def isEmpty (table : MetricTable) : Bool := table.entries.isEmpty

/-- The message where a metric is asked for that the table does not have. -/
def missingMessage (key : String) : List Char := "no metric named ".toList ++ Text.quoted key.toList

/-- The metric of a key, or why there is none. -/
def get (table : MetricTable) (key : String) : Except (List Char) MetricComparison :=
  match table.get? key with
  | some metric => .ok metric
  | none => .error (missingMessage key)

def tree (table : MetricTable) : Tree :=
  .object (table.entries.map fun (key, metric) => field key metric.tree)

end MetricTable

end InferenceBench
