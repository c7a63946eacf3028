import InferenceBench.Numeral.Shortest

/-! # Writing numbers

A number is written in one of two ways: by its shortest decimal, laid out as a `Layout` says, or
with a fixed number of places, rounded from its exact value. -/

namespace InferenceBench.Numeral

/-- How a shortest decimal is laid out. -/
structure Layout where
  /-- The exponents of the leading digit for which the number is written without exponent. -/
  positional : Int → Bool
  /-- What follows a number without fraction. -/
  wholeMark : List Char
  /-- Which of two shortest decimals is written if they are equally near. -/
  tie : Tie

/-- Documents write every number with a fraction or an exponent, the latter for numbers below
`1e-5` and from `1e16` on. -/
def Layout.document : Layout := ⟨fun e => -5 ≤ e && e < 16, ['.', '0'], .toEven⟩

/-- A 32-bit number in a document, which has an exponent below `1e-6` and from `1e13` on. -/
def Layout.singleDocument : Layout := ⟨fun e => -6 ≤ e && e < 13, ['.', '0'], .toEven⟩

/-- Messages write every digit, and no fraction where there is none. -/
def Layout.plain : Layout := ⟨fun _ => true, [], .up⟩

def digitText (n : Nat) : List Char := Nat.toDigits 10 n

/-- The digits with a point after the first `whole` of them, zeros being added where needed. -/
def withPoint (digits : List Char) (whole : Int) (wholeMark : List Char) : List Char :=
  if (digits.length : Int) ≤ whole then
    digits ++ List.replicate (whole.toNat - digits.length) '0' ++ wholeMark
  else if 0 < whole then digits.take whole.toNat ++ '.' :: digits.drop whole.toNat
  else ['0', '.'] ++ List.replicate (-whole).toNat '0' ++ digits

/-- A leading digit, the others as its fraction, and the exponent with its sign. -/
def withExponent (digits : List Char) (exponent : Int) : List Char :=
  let fraction := digits.drop 1
  digits.take 1 ++ (if fraction.isEmpty then [] else '.' :: fraction) ++
    ['e', if exponent < 0 then '-' else '+'] ++ digitText exponent.natAbs

/-- A decimal in the given layout. -/
def Layout.write (layout : Layout) (decimal : Decimal) : List Char :=
  let digits := digitText decimal.digits
  let leading := decimal.exponent + digits.length - 1
  if layout.positional leading then withPoint digits (leading + 1) layout.wholeMark
  else withExponent digits leading

def signText (negative : Bool) : List Char := if negative then ['-'] else []

/-- A stored number by its shortest decimal, and by name where it is not finite. -/
def Layout.writeStored (layout : Layout) : Stored → List Char
  | .notANumber => "NaN".toList
  | .infinite negative => signText negative ++ "inf".toList
  | .finite negative magnitude => signText negative ++ layout.write (magnitude.shortest layout.tie)

/-- A 64-bit number by its shortest decimal. -/
def Layout.writeDouble (layout : Layout) (x : Float) : List Char := layout.writeStored (ofDouble x)

/-- The magnitude with `places` digits after the point, rounded to the nearest from its exact
value, a half to the even last digit. -/
def Magnitude.fixed (magnitude : Magnitude) (places : Nat) : List Char :=
  let scaled :=
    roundHalfEven (magnitude.mantissa * Nat.pow 2 magnitude.exponent.toNat * Nat.pow 10 places)
      (Nat.pow 2 (-magnitude.exponent).toNat)
  let fraction := digitText (scaled % Nat.pow 10 places)
  digitText (scaled / Nat.pow 10 places) ++
    (if places = 0 then []
      else '.' :: (List.replicate (places - fraction.length) '0' ++ fraction))

/-- A number with fixed places; `plus` is written before one without minus sign. -/
def fixedWithSign (plus : List Char) (places : Nat) (x : Float) : List Char :=
  let sign (negative : Bool) := if negative then ['-'] else plus
  match ofDouble x with
  | .notANumber => "NaN".toList
  | .infinite negative => sign negative ++ "inf".toList
  | .finite negative magnitude => sign negative ++ magnitude.fixed places

def fixed (places : Nat) (x : Float) : List Char := fixedWithSign [] places x

def signedFixed (places : Nat) (x : Float) : List Char := fixedWithSign ['+'] places x

end InferenceBench.Numeral
