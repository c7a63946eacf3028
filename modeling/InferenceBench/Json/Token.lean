import InferenceBench.Numeral.Hexadecimal
import InferenceBench.Text.Utf8

/-! # JSON tokens

The tokens of a JSON text are found by a machine that reads one symbol at a time, a symbol being
a character or a broken part of the encoding. Each token knows from its own symbols where it
ends, so the machine needs no look-ahead: a symbol that does not continue a number ends it. -/

namespace InferenceBench.Json

/-- A part of a string. Broken parts and surrogates that stand for no character are kept, since
only whoever asks for the text of the string has to refuse them. -/
inductive Piece where
  | char (c : Char)
  | broken
  /-- A code unit of a pair, written as an escape. -/
  | surrogate (unit : Nat)
  deriving Repr, DecidableEq

inductive Token where
  | openArray
  | closeArray
  | openObject
  | closeObject
  | comma
  | colon
  | null
  | boolean (value : Bool)
  /-- A number as it is written. -/
  | number (text : List Char)
  | text (pieces : List Piece)
  deriving Repr, DecidableEq

/-- The place in a number that a symbol has reached. -/
inductive NumberPart where
  | sign
  | zero
  | whole
  | point
  | fraction
  | mark
  | markSign
  | exponent
  deriving Repr, DecidableEq

def markAfter? (c : Char) : Option NumberPart := if c = 'e' || c = 'E' then some .mark else none

def pointAfter? (c : Char) : Option NumberPart := if c = '.' then some .point else markAfter? c

/-- The place that a further character leads to. -/
def NumberPart.next? (part : NumberPart) (c : Char) : Option NumberPart :=
  match part with
  | .sign => if c = '0' then some .zero else if c.isDigit then some .whole else none
  | .zero => pointAfter? c
  | .whole => if c.isDigit then some .whole else pointAfter? c
  | .point => if c.isDigit then some .fraction else none
  | .fraction => if c.isDigit then some .fraction else markAfter? c
  | .mark =>
    if c = '+' || c = '-' then some .markSign else if c.isDigit then some .exponent else none
  | .markSign | .exponent => if c.isDigit then some .exponent else none

/-- Whether a number may end at the place. -/
def NumberPart.isComplete : NumberPart → Bool
  | .zero | .whole | .fraction | .exponent => true
  | .sign | .point | .mark | .markSign => false

/-- What has been read of the token at hand; texts are kept from their end. -/
inductive Mode where
  | between
  /-- Inside a name, with what is missing of it. -/
  | word (missing : List Char) (token : Token)
  | number (part : NumberPart) (before : List Char)
  | text (before : List Piece)
  | escape (before : List Piece)
  /-- Inside an escaped code unit, with the count of its missing digits. -/
  | unit (before : List Piece) (missing : Nat) (value : Nat)
  deriving Repr, DecidableEq

def isJsonBlank (c : Char) : Bool := c = ' ' || c = '\t' || c = '\n' || c = '\r'

/-- The piece that an escaped code unit stands for. -/
def Piece.ofUnit (unit : Nat) : Piece :=
  if 0xD800 ≤ unit && unit < 0xE000 then .surrogate unit else .char (Char.ofNat unit)

/-- The character that a backslash and this character stand for. -/
def unescape? : Char → Option Char
  | '"' => some '"'
  | '\\' => some '\\'
  | '/' => some '/'
  | 'b' => some '\x08'
  | 'f' => some '\x0C'
  | 'n' => some '\n'
  | 'r' => some '\r'
  | 't' => some '\t'
  | _ => none

/-- The tokens that a character outside of all tokens completes, and the mode after it. -/
def Mode.begin (c : Char) : Option (List Token × Mode) :=
  match c with
  | '[' => some ([.openArray], .between)
  | ']' => some ([.closeArray], .between)
  | '\x7B' => some ([.openObject], .between)
  | '\x7D' => some ([.closeObject], .between)
  | ',' => some ([.comma], .between)
  | ':' => some ([.colon], .between)
  | '"' => some ([], .text [])
  | 'n' => some ([], .word "ull".toList .null)
  | 't' => some ([], .word "rue".toList (.boolean true))
  | 'f' => some ([], .word "alse".toList (.boolean false))
  | '-' => some ([], .number .sign [c])
  | _ =>
    if isJsonBlank c then some ([], .between)
    else (NumberPart.sign.next? c).map fun part => ([], .number part [c])

/-- One symbol further: the tokens that it completes, and the mode after it. -/
def Mode.step (mode : Mode) (symbol : Option Char) : Option (List Token × Mode) :=
  match mode, symbol with
  | .text before, none => some ([], .text (.broken :: before))
  | _, none => none
  | .between, some c => Mode.begin c
  | .word missing token, some c =>
    match missing with
    | [] => none
    | [last] => if c = last then some ([token], .between) else none
    | first :: rest => if c = first then some ([], .word rest token) else none
  | .number part before, some c =>
    match part.next? c with
    | some next => some ([], .number next (c :: before))
    | none =>
      if part.isComplete then
        (Mode.begin c).map fun (tokens, mode) => (.number before.reverse :: tokens, mode)
      else none
  | .text before, some c =>
    if c = '"' then some ([.text before.reverse], .between)
    else if c = '\\' then some ([], .escape before)
    else if c.toNat < 0x20 then none
    else some ([], .text (.char c :: before))
  | .escape before, some c =>
    if c = 'u' then some ([], .unit before 4 0)
    else (unescape? c).map fun c => ([], .text (.char c :: before))
  | .unit before missing value, some c =>
    (Numeral.hexDigit? c).map fun digit =>
      let value := value * 16 + digit
      if missing ≤ 1 then ([], .text (.ofUnit value :: before))
      else ([], .unit before (missing - 1) value)

/-- The tokens that the end of the text completes. -/
def Mode.finish : Mode → Option (List Token)
  | .between => some []
  | .number part before => if part.isComplete then some [.number before.reverse] else none
  | .word .. | .text .. | .escape .. | .unit .. => none

/-- The tokens of the rest of a text. -/
def Mode.tokens (mode : Mode) : List (Option Char) → Option (List Token)
  | [] => mode.finish
  | symbol :: rest =>
    match mode.step symbol with
    | none => none
    | some (completed, mode) => (mode.tokens rest).map (completed ++ ·)

/-- The tokens of a text. -/
def tokens? (symbols : List (Option Char)) : Option (List Token) := Mode.between.tokens symbols

end InferenceBench.Json
