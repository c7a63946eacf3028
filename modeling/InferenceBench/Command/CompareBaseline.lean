import InferenceBench.Baseline.Comparison
import InferenceBench.Baseline.Update
import InferenceBench.Command.Arguments
import InferenceBench.Command.System

/-! # Comparing with a baseline

The program that guards a baseline: it compares results with it, or takes them over into it. -/

namespace InferenceBench.Command

open Json

structure CompareBaseline where
  results : String
  baseline : String
  mapping : Option String
  threshold : Float
  update : Bool
  runId : Option String
  output : String
  deriving Repr, DecidableEq

namespace CompareBaseline

def options : List OptionSpec :=
  [⟨"results", .single .path, none⟩, ⟨"baseline", .single .path, none⟩,
    ⟨"mapping", .single .path, none⟩, ⟨"threshold", .single .double, none⟩,
    ⟨"update-baseline", .flag, none⟩, ⟨"run-id", .single .text, none⟩,
    ⟨"output", .single .path, none⟩]

/-- The allowed drop, in percentage points, where nothing else is said. -/
def usualThreshold : Float := 5

def ofGiven (given : Given) : Except Refusal CompareBaseline :=
  match given.text? "results", given.text? "baseline" with
  | some results, some baseline =>
    .ok
      { results, baseline
        mapping := given.text? "mapping"
        threshold := (given.double? "threshold").getD usualThreshold
        update := given.isGiven "update-baseline"
        runId := given.text? "run-id"
        output := (given.text? "output").getD "comparison_results.json" }
  | _, _ => .error .usage

/-- The scores of an updated baseline as they are shown on the console. -/
def updatedText (baseline : Value) (mappings : List MetricMapping) : List Char :=
  let scores := baselineScores baseline
  let rule := List.replicate 60 '='
  let line (mapping : MetricMapping) : List Char :=
    mapping.name.toList ++ ": ".toList ++
      percentText ((score? scores mapping.baselineKey).getD 0)
  let samples := ((scores.field? "num_samples").bind Value.asNatural?).getD 0
  Text.joinWith ['\n']
    ([[], rule, "Updated Baseline Values:".toList, rule,
      "Model: ".toList ++ (modelName baseline).toList] ++ mappings.map line ++
      ["Samples: ".toList ++ Numeral.digitText samples, rule, [], []])

variable {m : Type → Type} [Monad m]

/-- Takes the results over into the baseline. -/
def runUpdate (command : CompareBaseline) (system : System m) (results baseline : Value)
    (mappings : List MetricMapping) : Program m Verdict := do
  match updateBaseline baseline results mappings command.runId (← system.now) with
  | (_, some error) => throw error.message
  | (baseline, none) =>
    system.save "failed to write " command.baseline baseline.document
    system.sayLine ("✅ Baseline updated: ".toList ++ command.baseline.toList)
    system.say (updatedText baseline mappings)
    pure .success

/-- Compares the results with the baseline. -/
def runComparison (command : CompareBaseline) (system : System m) (results baseline : Value)
    (mappings : List MetricMapping) : Program m Verdict := do
  let comparison :=
    Comparison.ofDocuments results baseline mappings command.threshold (← system.now)
  system.save "failed to write " command.output comparison.tree.pretty
  system.sayLine ('\n' :: comparison.render ++ ['\n'])
  if comparison.failed then
    system.sayLine
      "❌ Comparison FAILED: Model accuracy degraded beyond acceptable threshold".toList
    pure .failure
  else
    system.sayLine "✅ Comparison PASSED: Model accuracy within acceptable range".toList
    pure .success

def run (command : CompareBaseline) (system : System m) : Program m Verdict := do
  let mappings ← match command.mapping with
    | some path => orStop MappingError.message (readMappings path (← system.read path))
    | none => pure MetricMapping.standard
  let results ← system.load command.results
  let baseline ← system.load command.baseline
  if command.update then command.runUpdate system results baseline mappings
  else command.runComparison system results baseline mappings

end CompareBaseline

end InferenceBench.Command
