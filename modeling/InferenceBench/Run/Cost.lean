import InferenceBench.Json.Value

/-! # What tokens cost

A server that costs so much an hour and makes so many tokens a second has a price for a million
tokens. Without throughput there is none: it is shown as such and left out of documents. -/

namespace InferenceBench

inductive CostFigure where
  /-- Dollars for a million tokens. -/
  | perMillionTokens (dollars : Float)
  | unbounded
  deriving Repr, DecidableEq

namespace CostFigure

def ofThroughput (tokensPerSecond costPerHour : Float) : CostFigure :=
  if 0 < tokensPerSecond then
    .perMillionTokens (costPerHour * 1000000 / (tokensPerSecond * 3600))
  else .unbounded

def toDouble : CostFigure → Float
  | .perMillionTokens dollars => dollars
  | .unbounded => Float.ofBits 0x7FF0000000000000

def isUnbounded : CostFigure → Bool
  | .perMillionTokens _ => false
  | .unbounded => true

/-- The figure as it is shown, in dollars with four places. -/
def display : CostFigure → List Char
  | .perMillionTokens dollars => '$' :: Numeral.fixed 4 dollars
  | .unbounded => "n/a (no throughput)".toList

/-- The figure as documents hold it. -/
def tree : CostFigure → Json.Tree
  | .perMillionTokens dollars => .ofDouble dollars
  | .unbounded => .null

end CostFigure

end InferenceBench
