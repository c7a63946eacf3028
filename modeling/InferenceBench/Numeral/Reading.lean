import InferenceBench.Numeral.Binary

/-! # Reading numbers

The value of a decimal text is exact until the one rounding to the nearest stored number. -/

namespace InferenceBench.Numeral

/-- The number that decimal digits spell, most significant first. -/
def ofDigits (digits : List Char) : Nat :=
  digits.foldl (fun n c => n * 10 + (c.toNat - '0'.toNat)) 0

/-- The 64-bit number nearest to `digits * 10 ^ exponent`. A number of `n` digits whose leading
digit lies beyond `10 ^ 400`, or below `10 ^ (-400)`, needs no power of ten: the one is infinite
and the other zero. -/
def doubleOfDecimal (negative : Bool) (digits : Nat) (exponent : Int) : Float :=
  let leading := exponent + (Nat.toDigits 10 digits).length
  if digits = 0 || leading < -400 then nearestDouble negative 0 1
  else if 400 < leading then
    Float.ofBits (if negative then 0xFFF0000000000000 else 0x7FF0000000000000)
  else nearestDouble negative (digits * Nat.pow 10 exponent.toNat) (Nat.pow 10 (-exponent).toNat)

/-- The number that an optional plus sign and decimal digits spell. -/
def readNatural? (text : List Char) : Option Nat :=
  let digits := match text with
    | '+' :: rest => rest
    | _ => text
  if !digits.isEmpty && digits.all Char.isDigit then some (ofDigits digits) else none

/-- The number that an optional sign and decimal digits spell. -/
def readInteger? (text : List Char) : Option Int :=
  match text with
  | '-' :: digits =>
    if !digits.isEmpty && digits.all Char.isDigit then some (-(ofDigits digits : Int)) else none
  | _ => (readNatural? text).map Int.ofNat

/-- An exponent: nothing, or a mark and an integer. -/
def readExponent? : List Char → Option Int
  | [] => some 0
  | mark :: rest => if mark = 'e' || mark = 'E' then readInteger? rest else none

/-- A number without sign: digits on at least one side of an optional point, then an optional
exponent; or the name of a value that is no number. -/
def readUnsignedDouble? (negative : Bool) (text : List Char) : Option Float :=
  match text.map Char.toLower with
  | ['i', 'n', 'f'] | ['i', 'n', 'f', 'i', 'n', 'i', 't', 'y'] =>
    some (Float.ofBits (if negative then 0xFFF0000000000000 else 0x7FF0000000000000))
  | ['n', 'a', 'n'] => some (Float.ofBits 0x7FF8000000000000)
  | _ =>
    let whole := text.takeWhile Char.isDigit
    let rest := text.dropWhile Char.isDigit
    let (fraction, rest) := match rest with
      | '.' :: rest => (rest.takeWhile Char.isDigit, rest.dropWhile Char.isDigit)
      | _ => ([], rest)
    if whole.isEmpty && fraction.isEmpty then none
    else (readExponent? rest).map fun exponent =>
      doubleOfDecimal negative (ofDigits (whole ++ fraction)) (exponent - fraction.length)

/-- The 64-bit number that a text spells, with an optional sign. -/
def readDouble? : List Char → Option Float
  | '-' :: rest => readUnsignedDouble? true rest
  | '+' :: rest => readUnsignedDouble? false rest
  | text => readUnsignedDouble? false text

end InferenceBench.Numeral
