import InferenceBench.Json.Value

/-! # Scores in documents

Where results and baselines keep their scores, and what model they are about. -/

namespace InferenceBench

open Json

/-- The scores of a results document: below `accuracy` and `ifeval` if it has the first key, else
the document itself. -/
def currentScores (results : Value) : Value :=
  match results.field? "accuracy" with
  | some accuracy => (accuracy.field? "ifeval").getD .null
  | none => results

/-- The scores of a baseline document. -/
def baselineScores (baseline : Value) : Value :=
  ((baseline.field? "accuracy").bind (·.field? "ifeval")).getD .null

/-- The score of a key, if it is a number. -/
def score? (scores : Value) (key : String) : Option Float :=
  (scores.field? key).bind Value.asDouble?

def modelName (document : Value) : String :=
  ((document.field? "model").bind Value.asText?).getD "unknown"

end InferenceBench
