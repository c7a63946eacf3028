import InferenceBench.Text.Printable

/-! # Quoted texts

The form in which a message shows a text that may hold anything: between double quotes, with a
backslash before quotes and backslashes, short escapes for the common control characters, and
the code point in braces for all else that cannot be seen. -/

namespace InferenceBench.Text

/-- The escaped form of a character by its code point. -/
def codePointEscape (c : Char) : List Char :=
  ['\\', 'u', Char.ofNat 0x7B] ++ Nat.toDigits 16 c.toNat ++ [Char.ofNat 0x7D]

def quotedChar (c : Char) : List Char :=
  match c with
  | '\x00' => ['\\', '0']
  | '\t' => ['\\', 't']
  | '\n' => ['\\', 'n']
  | '\r' => ['\\', 'r']
  | '"' => ['\\', '"']
  | '\\' => ['\\', '\\']
  | _ => if isExtending c || !isVisible c then codePointEscape c else [c]

def quoted (text : List Char) : List Char := '"' :: text.flatMap quotedChar ++ ['"']

end InferenceBench.Text
