import InferenceBench.Json.Value
import InferenceBench.Pricing.Entry
import InferenceBench.Pricing.Field

/-! # Updating prices

The prices of a model are what its tokens cost in a benchmark. They replace the prices in the
entry of the model, and nothing else of the page. -/

namespace InferenceBench.Pricing

open Json

/-- Prices in dollars for a million tokens. -/
structure Prices where
  input : Float
  output : Float
  cachedInput : Option Float
  deriving Repr, DecidableEq

/-- Why results have no prices. -/
inductive PricesError where
  | missing (workload : String)
  | notANumber (workload : String)
  deriving Repr, DecidableEq

def PricesError.message : PricesError → String
  | .missing workload => "results have no finite " ++ workload ++ ".cost_per_million_tokens"
  | .notANumber workload => workload ++ ".cost_per_million_tokens is not a number"

/-- What the tokens of a workload cost, if the results say so. -/
def workloadCost (results : Value) (workload : String) : Except PricesError (Option Float) :=
  match (results.field? workload).bind (·.field? "cost_per_million_tokens") with
  | none | some .null => .ok none
  | some value =>
    match value.asDouble? with
    | some cost => .ok (some cost)
    | none => .error (.notANumber workload)

/-- What the tokens of a workload cost. -/
def requiredCost (results : Value) (workload : String) : Except PricesError Float := do
  match ← workloadCost results workload with
  | some cost => pure cost
  | none => throw (.missing workload)

def Prices.ofResults (results : Value) : Except PricesError Prices := do
  let input ← requiredCost results "prefill"
  let output ← requiredCost results "decode"
  let cachedInput ← workloadCost results "cached"
  pure ⟨input, output, cachedInput⟩

def inputField : List Char := "inputPricePerM:".toList

def outputField : List Char := "outputPricePerM:".toList

def cachedField : List Char := "cachedInputPricePerM:".toList

/-- Sets the price of cached input: in place where the block has one, else after each price of
input that a comma follows. -/
def setCachedPrice (value block : List Char) : List Char :=
  if Text.contains cachedField block then replacePrices cachedField value block
  else
    appendAfterPrices inputField ("\n        ".toList ++ cachedField ++ ' ' :: value ++ [','])
      (pieces inputField block)

/-- The block with other prices: two places for input and output, four for cached input. -/
def Prices.applyTo (prices : Prices) (block : List Char) : List Char :=
  let block := replacePrices inputField (Numeral.fixed 2 prices.input) block
  let block := replacePrices outputField (Numeral.fixed 2 prices.output) block
  match prices.cachedInput with
  | some cached => setCachedPrice (Numeral.fixed 4 cached) block
  | none => block

/-- The page with other prices in the entry of a model, if it has one. -/
def reprice? (key : List Char) (prices : Prices) (page : List Char) : Option (List Char) :=
  (entryFor? key page).map fun entry => entry.before ++ prices.applyTo entry.block ++ entry.after

end InferenceBench.Pricing
