/-! # Hexadecimal digits

Digits of base sixteen, read in either case. -/

namespace InferenceBench.Numeral

/-- The value of a hexadecimal digit. -/
def hexDigit? (c : Char) : Option Nat :=
  if c.isDigit then some (c.toNat - '0'.toNat)
  else if 'a' ≤ c && c ≤ 'f' then some (c.toNat - 'a'.toNat + 10)
  else if 'A' ≤ c && c ≤ 'F' then some (c.toNat - 'A'.toNat + 10)
  else none

/-- The number that hexadecimal digits spell. -/
def ofHexDigits (digits : List Char) : Nat :=
  digits.foldl (fun n c => n * 16 + (hexDigit? c).getD 0) 0

/-- The digit of a value below sixteen, a letter in upper case. -/
def upperHexDigit (n : Nat) : Char :=
  if n < 10 then Char.ofNat ('0'.toNat + n) else Char.ofNat ('A'.toNat + (n - 10))

end InferenceBench.Numeral
