import InferenceBench.Baseline.Mapping
import InferenceBench.Baseline.Scores
import InferenceBench.Time.Instant

/-! # Updating a baseline

The scores of a run replace those of the baseline. All other fields of the document stay. An
update that fails may have changed the document before it did. -/

namespace InferenceBench

open Json

/-- Why a baseline cannot be updated. -/
inductive BaselineError where
  | notAnObject
  | fieldNotAnObject (key : String)
  deriving Repr, DecidableEq

def BaselineError.message : BaselineError → String
  | .notAnObject => "baseline document must be a JSON object"
  | .fieldNotAnObject key => "baseline field \x60" ++ key ++ "\x60 is not an object"

/-- The fields of the object under a key, which is empty where the key is missing; none if
something else is there. -/
def childFields? (key : String) (fields : Fields) : Option Fields :=
  match fields.find? key with
  | none => some []
  | some (.object child) => some child
  | some _ => none

/-- A number as it is, and zero for anything else. -/
def numberOrZero : Option Value → Value
  | some (.number value) => .number value
  | _ => .number (.natural 0)

/-- The scores of a baseline with those of a run in place. -/
def replaceScores (current : Value) (mappings : List MetricMapping) (scores : Fields) : Fields :=
  (mappings.foldl
    (fun scores mapping =>
      scores.insert mapping.baselineKey (numberOrZero (current.field? mapping.resultKey)))
    scores).insert "num_samples" (numberOrZero (current.field? "num_samples"))

/-- The root of a baseline with its scores replaced. -/
def replaceAccuracy (current : Value) (mappings : List MetricMapping) (root : Fields) :
    Except BaselineError Fields :=
  match childFields? "accuracy" root with
  | none => .error (.fieldNotAnObject "accuracy")
  | some accuracy =>
    match childFields? "ifeval" accuracy with
    | none => .error (.fieldNotAnObject "ifeval")
    | some scores =>
      .ok (root.insert "accuracy"
        (.object (accuracy.insert "ifeval" (.object (replaceScores current mappings scores)))))

/-- The root with the time of the update, and the run if it is known. -/
def stamp (now : Instant) (runId : Option String) (root : Fields) : Fields :=
  let root := root.insert "last_updated" (.text (String.ofList now.text))
  match runId with
  | some runId => root.insert "run_id" (.text runId)
  | none => root

/-- The workloads whose throughput a baseline keeps. -/
def measuredSections : List String := ["prefill", "decode", "cached"]

/-- Takes over the throughput of the sections that the results have, up to the first fault. -/
def replaceThroughput (results : Value) (root : Fields) :
    List String → Fields × Option BaselineError
  | [] => (root, none)
  | part :: rest =>
    match results.field? part with
    | none => replaceThroughput results root rest
    | some workload =>
      match childFields? "performance" root with
      | none => (root, some (.fieldNotAnObject "performance"))
      | some performance =>
        let rate := (workload.field? "tokens_per_second").getD .null
        let performance := performance.insert (part ++ "_tokens_per_second") rate
        replaceThroughput results (root.insert "performance" (.object performance)) rest

/-- The baseline after an update, and what went wrong with it. -/
def updateBaseline (baseline results : Value) (mappings : List MetricMapping)
    (runId : Option String) (now : Instant) : Value × Option BaselineError :=
  match baseline with
  | .object root =>
    match replaceAccuracy (currentScores results) mappings root with
    | .error error => (baseline, some error)
    | .ok root =>
      let (root, error) := replaceThroughput results (stamp now runId root) measuredSections
      (.object root, error)
  | _ => (baseline, some .notAnObject)

end InferenceBench
