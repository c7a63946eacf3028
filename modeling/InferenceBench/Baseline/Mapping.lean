import InferenceBench.Json.Record

/-! # Metric mappings

Results and baselines keep the same metric under different keys. A mapping pairs the two, and may
set how far the metric may drop. -/

namespace InferenceBench

open Json

structure MetricMapping where
  resultKey : String
  baselineKey : String
  name : String
  /-- The allowed drop in percentage points, where it is not the usual one. -/
  threshold : Option Float
  deriving Repr, DecidableEq

namespace MetricMapping

/-- The scores of instruction following: results keep the strict ones under the bare name. -/
def standard : List MetricMapping :=
  [⟨"prompt_level_accuracy", "prompt_level_accuracy_strict", "Prompt-level Accuracy (Strict)",
      none⟩,
    ⟨"prompt_level_accuracy_loose", "prompt_level_accuracy_loose", "Prompt-level Accuracy (Loose)",
      none⟩,
    ⟨"instruction_level_accuracy", "instruction_level_accuracy_strict",
      "Instruction-level Accuracy (Strict)", none⟩,
    ⟨"instruction_level_accuracy_loose", "instruction_level_accuracy_loose",
      "Instruction-level Accuracy (Loose)", none⟩]

def ofTree? (tree : Tree) : Option MetricMapping := do
  let slots ← tree.slots? ["result_key", "baseline_key", "name", "threshold"]
  let resultKey ← slots.required Tree.string? "result_key"
  let baselineKey ← slots.required Tree.string? "baseline_key"
  let name ← slots.required Tree.string? "name"
  let threshold ← slots.withDefault none (Tree.nullable? Tree.double?) "threshold"
  pure ⟨resultKey, baselineKey, name, threshold⟩

def tree (mapping : MetricMapping) : Tree :=
  .object
    [field "result_key" (.ofString mapping.resultKey),
      field "baseline_key" (.ofString mapping.baselineKey),
      field "name" (.ofString mapping.name),
      field "threshold" (match mapping.threshold with
        | some threshold => .ofDouble threshold
        | none => .null)]

/-- The mappings that a text lists. -/
def listOfText? (text : List Char) : Option (List MetricMapping) :=
  (Tree.ofText? text).bind (Tree.list? ofTree?)

end MetricMapping

/-- Why a file holds no mappings. -/
inductive MappingError where
  | unreadable (path : String)
  | invalid (path : String)
  | none (path : String)
  deriving Repr, DecidableEq

def MappingError.message : MappingError → String
  | .unreadable path => "failed to read metric mapping " ++ path
  | .invalid path => "invalid metric mapping JSON in " ++ path
  | .none path => "metric mapping " ++ path ++ " is empty"

/-- The mappings in a file, given its bytes if there is such a file. -/
def readMappings (path : String) (bytes : Option (List UInt8)) :
    Except MappingError (List MetricMapping) :=
  match bytes.bind Utf8.decode? with
  | .none => .error (.unreadable path)
  | some text =>
    match MetricMapping.listOfText? text with
    | .none => .error (.invalid path)
    | some [] => .error (.none path)
    | some mappings => .ok mappings

end InferenceBench
