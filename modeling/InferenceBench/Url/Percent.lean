import InferenceBench.Numeral.Hexadecimal
import InferenceBench.Text.Utf8

/-! # Percent coding

Characters that a part of a URL cannot hold as they are stand there as their UTF-8 bytes, each
written as a percent sign and two hexadecimal digits. Which characters these are depends on the
part. A percent sign itself is never encoded, so what is encoded already stays as it is. -/

namespace InferenceBench.Url

open Numeral

def isControl (c : Char) : Bool := c.toNat < 0x20 || c.toNat == 0x7F

/-- The characters that no part of a URL holds as they are. -/
def isNeverPlain (c : Char) : Bool := isControl c || 0x7F ≤ c.toNat

def encodedInFragment (c : Char) : Bool :=
  isNeverPlain c || [' ', '"', '<', '>', '\x60'].contains c

def encodedInQuery (c : Char) : Bool :=
  isNeverPlain c || [' ', '"', '#', '<', '>', '\''].contains c

def encodedInPath (c : Char) : Bool :=
  encodedInFragment c || ['#', '?', '\x7B', '\x7D'].contains c

def encodedInUserinfo (c : Char) : Bool :=
  encodedInPath c || ['/', ':', ';', '=', '@', '[', '\\', ']', '^', '|'].contains c

def encodedByte (byte : UInt8) : List Char :=
  ['%', upperHexDigit (byte.toNat / 16), upperHexDigit (byte.toNat % 16)]

/-- The text with the characters that `isEncoded` names in their encoded form. -/
def percentEncode (isEncoded : Char → Bool) (text : List Char) : List Char :=
  text.flatMap fun c => if isEncoded c then (Utf8.encode [c]).flatMap encodedByte else [c]

/-- The bytes of a text in which each percent sign with two hexadecimal digits stands for one. -/
def percentDecode : List Char → List UInt8
  | '%' :: high :: low :: rest =>
    match hexDigit? high, hexDigit? low with
    | some high, some low => UInt8.ofNat (high * 16 + low) :: percentDecode rest
    | _, _ => Utf8.encode ['%'] ++ percentDecode (high :: low :: rest)
  | c :: rest => Utf8.encode [c] ++ percentDecode rest
  | [] => []

end InferenceBench.Url
