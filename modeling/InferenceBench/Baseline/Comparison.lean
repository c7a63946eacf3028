import InferenceBench.Baseline.Mapping
import InferenceBench.Baseline.MetricTable
import InferenceBench.Baseline.Scores
import InferenceBench.Text.Split
import InferenceBench.Time.Instant

/-! # Comparisons with a baseline

Each mapped metric of the results is compared with its baseline. The comparison fails as soon as
one metric fails; a metric without baseline does not. -/

namespace InferenceBench

open Json

structure Comparison where
  model : String
  baselineModel : String
  timestamp : List Char
  metrics : MetricTable
  failed : Bool
  /-- A line for each mapping. -/
  summary : List (List Char)
  deriving Repr, DecidableEq

/-- A number of percents with two places. -/
def percentText (x : Float) : List Char := Numeral.fixed 2 x ++ ['%']

namespace MetricMapping

/-- The metric where the baseline has a number for it. -/
def compared (mapping : MetricMapping) (defaultThreshold current baseline : Float) :
    MetricComparison :=
  let threshold := mapping.threshold.getD defaultThreshold
  let delta := current - baseline
  { name := mapping.name
    current
    baseline := some baseline
    delta := some delta
    threshold := some threshold
    status := .classify delta threshold
    message :=
      String.ofList ("Current ".toList ++ percentText current ++ " vs baseline ".toList ++
        percentText baseline ++ " (".toList ++
        (if 0 < delta then "improved" else "degraded").toList ++ " by ".toList ++
        percentText delta.abs ++ [')']) }

/-- The metric where it has not. -/
def unmatched (mapping : MetricMapping) (current : Float) : MetricComparison :=
  ⟨mapping.name, current, none, none, none, .noBaseline, "No baseline value available"⟩

/-- The metric of a mapping; a missing score counts as zero. -/
def metric (mapping : MetricMapping) (current baseline : Value) (defaultThreshold : Float) :
    MetricComparison :=
  let score := (score? current mapping.resultKey).getD 0
  match score? baseline mapping.baselineKey with
  | some held => mapping.compared defaultThreshold score held
  | none => mapping.unmatched score

end MetricMapping

/-- The line of a metric in the summary. -/
def MetricComparison.line (metric : MetricComparison) : List Char :=
  metric.status.symbol.toList ++ ' ' :: metric.name.toList ++ ": ".toList ++
    percentText metric.current ++
    (match metric.baseline, metric.delta with
      | some baseline, some delta =>
        " (baseline: ".toList ++ percentText baseline ++ ", Δ ".toList ++
          Numeral.signedFixed 2 delta ++ "%)".toList
      | _, _ => " (no baseline)".toList)

namespace Comparison

/-- Adds the metric of a mapping. -/
def add (comparison : Comparison) (mapping : MetricMapping) (metric : MetricComparison) :
    Comparison :=
  { comparison with
    metrics := comparison.metrics.insert mapping.resultKey metric
    failed := comparison.failed || metric.status == .fail
    summary := comparison.summary ++ [metric.line] }

/-- Compares results with a baseline. -/
def ofDocuments (results baseline : Value) (mappings : List MetricMapping)
    (defaultThreshold : Float) (now : Instant) : Comparison :=
  let current := currentScores results
  let held := baselineScores baseline
  mappings.foldl
    (fun comparison mapping =>
      comparison.add mapping (mapping.metric current held defaultThreshold))
    { model := modelName results
      baselineModel := modelName baseline
      timestamp := now.text
      metrics := .empty
      failed := false
      summary := [] }

def status (comparison : Comparison) : String := if comparison.failed then "FAIL" else "PASS"

def tree (comparison : Comparison) : Tree :=
  .object
    [field "model" (.ofString comparison.model),
      field "baseline_model" (.ofString comparison.baselineModel),
      field "timestamp" (.ofChars comparison.timestamp),
      field "metrics" comparison.metrics.tree,
      field "status" (.ofString comparison.status),
      field "summary" (.array (comparison.summary.map Tree.ofChars))]

/-- The comparison as it is shown on the console. -/
def render (comparison : Comparison) : List Char :=
  let heavy := List.replicate 80 '='
  let light := List.replicate 80 '-'
  Text.joinWith ['\n']
    ([heavy, "🔍 Baseline Comparison Results".toList, heavy,
      "Model: ".toList ++ comparison.model.toList,
      "Baseline: ".toList ++ comparison.baselineModel.toList,
      "Status: ".toList ++ comparison.status.toList, light, "Metrics:".toList, light] ++
      comparison.summary.map ("  ".toList ++ ·) ++ [heavy])

end Comparison

end InferenceBench
