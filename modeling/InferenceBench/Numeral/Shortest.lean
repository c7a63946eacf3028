import InferenceBench.Numeral.Binary

/-! # Shortest decimals

The decimal that stands for a stored number is the one with the fewest digits among those that
read back as it, and of two such the nearer one. Where both are equally near, a `Tie` decides. The
search goes from one digit upwards: on the grid of decimals with that many digits only the two
neighbours of the value can qualify. -/

namespace InferenceBench.Numeral

/-- Which of two decimals to take if they are equally near. -/
inductive Tie where
  | toEven
  | up
  deriving Repr, DecidableEq

/-- The quotient rounded to the nearest integer. -/
def Tie.round (tie : Tie) (numerator denominator : Nat) : Nat :=
  match tie with
  | .toEven => roundHalfEven numerator denominator
  | .up => (2 * numerator + denominator) / (2 * denominator)

/-- The number `digits * 10 ^ exponent`. -/
structure Decimal where
  digits : Nat
  exponent : Int
  deriving Repr, DecidableEq

/-- A decimal that was found among those with `count` digits may be the power of ten above all of
them; this has a single digit. -/
def Decimal.carried (count : Nat) (decimal : Decimal) : Decimal :=
  if decimal.digits = Nat.pow 10 count then ⟨1, decimal.exponent + count⟩ else decimal

/-- The quotient `value = numerator / denominator` of integers, and the decimals that read back
as it: `low ≤ 4 * value ≤ high` on the same denominator, the ends included or not. -/
structure Interval where
  value : Nat
  low : Nat
  high : Nat
  denominator : Nat
  closed : Bool
  deriving Repr, DecidableEq

/-- The interval of the numbers that round to a stored one. Its ends lie half a step away, below
an edge a quarter; they round to even mantissas. -/
def Magnitude.interval (magnitude : Magnitude) : Interval :=
  let scale := Nat.pow 2 magnitude.exponent.toNat
  let value := 4 * magnitude.mantissa
  { value := value * scale
    low := (value - if magnitude.atEdge then 1 else 2) * scale
    high := (value + 2) * scale
    denominator := 4 * Nat.pow 2 (-magnitude.exponent).toNat
    closed := magnitude.mantissa % 2 == 0 }

namespace Interval

/-- Whether `digits * 10 ^ exponent` lies in the interval. -/
def holds (interval : Interval) (decimal : Decimal) : Bool :=
  let point := decimal.digits * Nat.pow 10 decimal.exponent.toNat * interval.denominator
  let scale := Nat.pow 10 (-decimal.exponent).toNat
  if interval.closed then interval.low * scale ≤ point && point ≤ interval.high * scale
  else interval.low * scale < point && point < interval.high * scale

/-- How many digits the value has before the point; zero or less if it is below one, by the
number of zeros that follow the point. -/
def wholeDigits (interval : Interval) : Int :=
  if interval.denominator ≤ interval.value then
    (Nat.toDigits 10 (interval.value / interval.denominator)).length
  else 1 - (Nat.toDigits 10 ((interval.denominator - 1) / interval.value)).length

/-- The neighbour of the value on the grid of step `10 ^ exponent` that lies in the interval, the
nearer one if both do. -/
def neighbour? (interval : Interval) (tie : Tie) (exponent : Int) : Option Decimal :=
  let numerator := interval.value * Nat.pow 10 (-exponent).toNat
  let denominator := interval.denominator * Nat.pow 10 exponent.toNat
  let below : Decimal := ⟨numerator / denominator, exponent⟩
  let above : Decimal := ⟨numerator / denominator + 1, exponent⟩
  let nearest : Decimal := ⟨tie.round numerator denominator, exponent⟩
  match interval.holds below, interval.holds above with
  | true, true => some nearest
  | true, false => some below
  | false, true => some above
  | false, false => none

/-- The first hit with `count` digits or more, `more` counts being tried. -/
def search (interval : Interval) (tie : Tie) (whole : Int) : (count more : Nat) → Option Decimal
  | _, 0 => none
  | count, more + 1 =>
    ((interval.neighbour? tie (whole - count)).map (Decimal.carried count)).or
      (interval.search tie whole (count + 1) more)

end Interval

/-- The shortest decimal of a stored number. Seventeen digits always suffice in the formats of
this library. -/
def Magnitude.shortest (magnitude : Magnitude) (tie : Tie) : Decimal :=
  if magnitude.mantissa = 0 then ⟨0, 0⟩
  else
    let interval := magnitude.interval
    (interval.search tie interval.wholeDigits 1 17).getD ⟨0, 0⟩

end InferenceBench.Numeral
