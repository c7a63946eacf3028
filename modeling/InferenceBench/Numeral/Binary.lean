/-! # Binary floating-point formats

A binary format keeps a number as a sign, some exponent bits and some fraction bits. This module
takes such bits apart into an exact `mantissa * 2 ^ exponent`, and finds the bits of the number
that is nearest to such a product. Everything else that needs the value of a stored number works
on these exact integers. -/

namespace InferenceBench.Numeral

/-- A number `mantissa * 2 ^ exponent` that is zero or positive. -/
structure Magnitude where
  mantissa : Nat
  exponent : Int
  /-- Whether the next smaller number of the format is only half a step away. -/
  atEdge : Bool := false
  deriving Repr, DecidableEq

/-- What the bits of a format stand for. -/
inductive Stored where
  | notANumber
  | infinite (negative : Bool)
  | finite (negative : Bool) (magnitude : Magnitude)
  deriving Repr, DecidableEq

/-- The widths of a format's two fields. -/
structure Format where
  fractionBits : Nat
  exponentBits : Nat
  deriving Repr, DecidableEq

namespace Format

/-- The 64-bit format. -/
def double : Format := ⟨52, 11⟩

/-- The 32-bit format. -/
def single : Format := ⟨23, 8⟩

/-- The exponent of the smallest step of the format. -/
def leastExponent (format : Format) : Int :=
  2 - Nat.pow 2 (format.exponentBits - 1) - format.fractionBits

/-- The bits of positive infinity. -/
def infinityBits (format : Format) : Nat :=
  (Nat.pow 2 format.exponentBits - 1) * Nat.pow 2 format.fractionBits

/-- What the bits of the format stand for. -/
def decode (format : Format) (bits : Nat) : Stored :=
  let fraction := bits % Nat.pow 2 format.fractionBits
  let field := bits / Nat.pow 2 format.fractionBits % Nat.pow 2 format.exponentBits
  let negative := bits / Nat.pow 2 (format.fractionBits + format.exponentBits) % 2 == 1
  if field = Nat.pow 2 format.exponentBits - 1 then
    if fraction = 0 then .infinite negative else .notANumber
  else if field = 0 then .finite negative ⟨fraction, format.leastExponent, false⟩
  else
    .finite negative
      ⟨Nat.pow 2 format.fractionBits + fraction, format.leastExponent + (field - 1 : Nat),
        fraction == 0 && 1 < field⟩

end Format

/-- The quotient rounded to the nearest integer, a half to the even one. -/
def roundHalfEven (numerator denominator : Nat) : Nat :=
  let quotient := numerator / denominator
  let twice := 2 * (numerator % denominator)
  if twice < denominator then quotient
  else if denominator < twice then quotient + 1
  else quotient + quotient % 2

/-- The greatest power of two, by its exponent, that is not above `numerator / denominator`. -/
def leadingPower (numerator denominator : Nat) : Int :=
  let guess : Int := Nat.log2 numerator - Nat.log2 denominator
  if denominator * Nat.pow 2 guess.toNat ≤ numerator * Nat.pow 2 (-guess).toNat then guess
  else guess - 1

/-- The bits of the number of the format, without sign, that is nearest to
`numerator / denominator`; a half goes to the even mantissa, and what lies beyond the largest
number to infinity. -/
def Format.nearestBits (format : Format) (numerator denominator : Nat) : Nat :=
  if numerator = 0 then 0
  else
    let exponent :=
      max (leadingPower numerator denominator - format.fractionBits) format.leastExponent
    let mantissa :=
      roundHalfEven (numerator * Nat.pow 2 (-exponent).toNat)
        (denominator * Nat.pow 2 exponent.toNat)
    min ((exponent - format.leastExponent).toNat * Nat.pow 2 format.fractionBits + mantissa)
      format.infinityBits

/-- What a 64-bit number stands for. -/
def ofDouble (x : Float) : Stored := Format.double.decode x.toBits.toNat

/-- What a 32-bit number stands for. -/
def ofSingle (x : Float32) : Stored := Format.single.decode x.toBits.toNat

/-- The 64-bit number nearest to the quotient. -/
def nearestDouble (negative : Bool) (numerator denominator : Nat) : Float :=
  let bits := Format.double.nearestBits numerator denominator
  Float.ofBits (UInt64.ofNat (if negative then bits + 0x8000000000000000 else bits))

/-- The 32-bit number nearest to the quotient. -/
def nearestSingle (negative : Bool) (numerator denominator : Nat) : Float32 :=
  let bits := Format.single.nearestBits numerator denominator
  Float32.ofBits (UInt32.ofNat (if negative then bits + 0x80000000 else bits))

/-- The 32-bit number nearest to a 64-bit one. -/
def singleOfDouble (x : Float) : Float32 :=
  match ofDouble x with
  | .notANumber => Float32.ofBits 0x7FC00000
  | .infinite negative => Float32.ofBits (if negative then 0xFF800000 else 0x7F800000)
  | .finite negative magnitude =>
    nearestSingle negative (magnitude.mantissa * Nat.pow 2 magnitude.exponent.toNat)
      (Nat.pow 2 (-magnitude.exponent).toNat)

end InferenceBench.Numeral
