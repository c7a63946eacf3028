import InferenceBench.Command.CollectResponses
import InferenceBench.Command.CompareBaseline
import InferenceBench.Command.RunBenchmark
import InferenceBench.Command.UpdatePricing

/-! # The programs -/

namespace InferenceBench.Command

inductive ProgramName where
  | runBenchmark
  | compareBaseline
  | updatePricing
  | collectResponses
  deriving Repr, DecidableEq

namespace ProgramName

/-- The name by which the program is called. -/
def text : ProgramName → String
  | .runBenchmark => "sparkbench"
  | .compareBaseline => "compare-baseline"
  | .updatePricing => "update-pricing"
  | .collectResponses => "eval-accuracy"

def ofText? (name : String) : Option ProgramName :=
  [runBenchmark, compareBaseline, updatePricing, collectResponses].find? (·.text = name)

def options : ProgramName → List OptionSpec
  | .runBenchmark => RunBenchmark.options
  | .compareBaseline => CompareBaseline.options
  | .updatePricing => UpdatePricing.options
  | .collectResponses => CollectResponses.options

/-- The program with the options that are given. -/
def program {m : Type → Type} [Monad m] (name : ProgramName) (system : System m) (given : Given) :
    Except Refusal (Program m Verdict) :=
  match name with
  | .runBenchmark => (RunBenchmark.ofGiven given).map (·.run system)
  | .compareBaseline => (CompareBaseline.ofGiven given).map (·.run system)
  | .updatePricing => .ok ((UpdatePricing.ofGiven given).run system)
  | .collectResponses => (CollectResponses.ofGiven given).map (·.run system)

end ProgramName

/-- How a call of a program ended. -/
inductive Exit where
  | refused (refusal : Refusal)
  | stopped (message : String)
  | done (verdict : Verdict)
  deriving Repr, DecidableEq

def Exit.code : Exit → Nat
  | .refused .help | .done .success => 0
  | .stopped _ | .done .failure => 1
  | .refused .usage => 2

/-- Calls a program with its arguments and environment. -/
def call {m : Type → Type} [Monad m] (name : ProgramName) (system : System m)
    (environment : List (String × String)) (arguments : List String) : m Exit :=
  match (readOptions name.options environment arguments).bind (name.program system) with
  | .error refusal => pure (.refused refusal)
  | .ok program => do
    match ← program.run with
    | .ok verdict => pure (.done verdict)
    | .error message => pure (.stopped message)

end InferenceBench.Command
