import InferenceBench.Text.Split
import InferenceBench.Url.Percent

/-! # Addresses

A host may be written as an address: four numbers with dots between them, of which the last ones
may be drawn together, or eight groups in brackets, of which a run of zeros may be left out. -/

namespace InferenceBench.Url

/-- The number that the digits spell in a base, if all of them are digits of it. -/
def digitsInBase? (base : Nat) (digits : List Char) : Option Nat :=
  digits.foldlM (fun n c =>
    match Numeral.hexDigit? c with
    | some d => if d < base then some (n * base + d) else none
    | none => none) 0

/-- One number of a dotted address. A leading zero makes it octal and `0x` hexadecimal; the mark
alone is zero. -/
def dottedNumber? : List Char → Option Nat
  | [] => none
  | '0' :: 'x' :: digits => digitsInBase? 16 digits
  | '0' :: 'X' :: digits => digitsInBase? 16 digits
  | '0' :: d :: digits => digitsInBase? 8 (d :: digits)
  | digits => digitsInBase? 10 digits

/-- The parts of a domain between its dots; a single dot at its end does not count. -/
def dottedParts (domain : List Char) : List (List Char) :=
  let parts := Text.partsBy (· = '.') domain
  if parts.getLast? = some [] then parts.dropLast else parts

/-- Whether a domain can only be meant as an address, since its last part is a number. -/
def endsInNumber (domain : List Char) : Bool :=
  match (dottedParts domain).getLast? with
  | none => false
  | some last => (!last.isEmpty && last.all Char.isDigit) || (dottedNumber? last).isSome

/-- The address that the numbers spell: each but the last is one byte, and the last one all
bytes that are left. -/
def addressOf? (numbers : List Nat) : Option Nat :=
  let leading := numbers.dropLast
  match numbers.getLast? with
  | none => none
  | some last =>
    if 4 < numbers.length || leading.any (255 < ·) then none
    else if Nat.pow 256 (4 - leading.length) ≤ last then none
    else
      some
        (leading.foldl (fun n byte => n * 256 + byte) 0 * Nat.pow 256 (4 - leading.length) + last)

def dottedAddress? (domain : List Char) : Option Nat :=
  ((dottedParts domain).mapM dottedNumber?).bind addressOf?

/-- A dotted address in its usual form. -/
def dottedText (address : Nat) : List Char :=
  Text.joinWith ['.']
    ([16777216, 65536, 256, 1].map fun place => Nat.toDigits 10 (address / place % 256))

/-- A group of an address in brackets: one to four hexadecimal digits. -/
def group? (text : List Char) : Option Nat :=
  if text.isEmpty || 4 < text.length then none else digitsInBase? 16 text

/-- A byte of a dotted address at the end of one in brackets: decimal, without leading zeros. -/
def strictByte? (text : List Char) : Option Nat :=
  if text.isEmpty || 3 < text.length || (text.head? = some '0' && 1 < text.length) then none
  else (digitsInBase? 10 text).filter (· < 256)

/-- The two groups that a dotted address stands for. -/
def groupsOfBytes? (text : List Char) : Option (List Nat) :=
  match (Text.partsBy (· = '.') text).mapM strictByte? with
  | some [a, b, c, d] => some [a * 256 + b, c * 256 + d]
  | _ => none

/-- The groups between colons, the last of which may be a dotted address. -/
def groups? (text : List Char) : Option (List Nat) :=
  if text.isEmpty then some []
  else
    let parts := Text.partsBy (· = ':') text
    match parts.getLast? with
    | none => none
    | some last =>
      if last.contains '.' then
        match parts.dropLast.mapM group?, groupsOfBytes? last with
        | some groups, some ending => some (groups ++ ending)
        | _, _ => none
      else parts.mapM group?

/-- The eight groups of an address in brackets. Two colons in a row stand for the zeros that are
missing, one group at least. -/
def groupAddress? (text : List Char) : Option (List Nat) :=
  match Text.splitFirst? [':', ':'] text with
  | none => (groups? text).filter (·.length = 8)
  | some (before, after) =>
    if before.contains '.' then none
    else
      match groups? before, groups? after with
      | some before, some after =>
        if before.length + after.length < 8 then
          some (before ++ List.replicate (8 - before.length - after.length) 0 ++ after)
        else none
      | _, _ => none

/-- The length of the run of zeros that starts here. -/
def zeroRun (groups : List Nat) : Nat := (groups.takeWhile (· = 0)).length

/-- The first of the longest runs of zeros, by its start and length; `start` is the place of the
groups in the address. -/
def longestZeroRun (start : Nat) : List Nat → Nat × Nat
  | [] => (start, 0)
  | group :: rest =>
    let later := longestZeroRun (start + 1) rest
    let run := zeroRun (group :: rest)
    if later.2 ≤ run then (start, run) else later

def groupsText (groups : List Nat) : List Char :=
  Text.joinWith [':'] (groups.map (Nat.toDigits 16))

/-- An address in brackets in its shortest form: the first of the longest runs of two zeros or
more is left out. -/
def groupAddressText (groups : List Nat) : List Char :=
  let (start, length) := longestZeroRun 0 groups
  let inner :=
    if length < 2 then groupsText groups
    else groupsText (groups.take start) ++ [':', ':'] ++ groupsText (groups.drop (start + length))
  '[' :: inner ++ [']']

end InferenceBench.Url
