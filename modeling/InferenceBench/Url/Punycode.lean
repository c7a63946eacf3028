/-! # Punycode

A label with characters beyond ASCII is written as its ASCII characters, a dash, and digits of
base 36 that say where the others belong. They are inserted in the order of their code points;
what is written is the distance from one insertion to the next, least digit first, where the
weight of a digit adapts to the distances before. -/

namespace InferenceBench.Url.Punycode

/-- The smallest value of a digit at place `k` that does not end its number. -/
def threshold (k bias : Nat) : Nat := if k ≤ bias + 1 then 1 else min 26 (k - bias)

theorem one_le_threshold (k bias : Nat) : 1 ≤ threshold k bias := by
  unfold threshold
  split <;> omega

/-- Divides by 35 until the number is small, and counts the divisions. -/
def reduceDelta (delta count : Nat) : Nat × Nat :=
  if 455 < delta then reduceDelta (delta / 35) (count + 1) else (delta, count)
  termination_by delta
  decreasing_by omega

/-- The bias after a distance, given the length of the label with the new character. -/
def adapt (delta length : Nat) (isFirst : Bool) : Nat :=
  let scaled := if isFirst then delta / 700 else delta / 2
  let (delta, count) := reduceDelta (scaled + scaled / length) 0
  36 * count + 36 * delta / (delta + 38)

def digitChar (digit : Nat) : Char :=
  if digit < 26 then Char.ofNat ('a'.toNat + digit) else Char.ofNat ('0'.toNat + (digit - 26))

def digitValue? (c : Char) : Option Nat :=
  if 'a' ≤ c && c ≤ 'z' then some (c.toNat - 'a'.toNat)
  else if c.isDigit then some (c.toNat - '0'.toNat + 26)
  else none

/-- The digits of a distance from place `k` on. -/
def distanceDigits (bias k distance : Nat) : List Char :=
  let t := threshold k bias
  if distance < t then [digitChar distance]
  else
    digitChar (t + (distance - t) % (36 - t)) ::
      distanceDigits bias (k + 36) ((distance - t) / (36 - t))
  termination_by distance
  decreasing_by
    have := one_le_threshold k bias
    exact Nat.lt_of_le_of_lt (Nat.div_le_self _ _) (by omega)

/-- The state between two insertions. -/
structure State where
  bias : Nat
  /-- How many positions have been passed since the last insertion. -/
  delta : Nat
  /-- How many characters have been placed. -/
  placed : Nat
  written : List Char
  deriving Repr, DecidableEq

/-- Passes a character of the label while `code` is inserted; `ascii` characters were there at the
start. -/
def State.pass (ascii code : Nat) (state : State) (c : Char) : State :=
  if c.toNat < code then { state with delta := state.delta + 1 }
  else if c.toNat = code then
    { bias := adapt state.delta (state.placed + 1) (state.placed == ascii)
      delta := 0
      placed := state.placed + 1
      written := state.written ++ distanceDigits state.bias 36 state.delta }
  else state

/-- Inserts the codes one after the other; `next` is the first code that may still come. -/
def insertCodes (label : List Char) (ascii next : Nat) (state : State) : List Nat → State
  | [] => state
  | code :: codes =>
    let state := { state with delta := state.delta + (code - next) * (state.placed + 1) }
    let state := label.foldl (State.pass ascii code) state
    insertCodes label ascii (code + 1) { state with delta := state.delta + 1 } codes

def isAscii (c : Char) : Bool := c.toNat < 0x80

/-- The ASCII form of a label. -/
def encode (label : List Char) : List Char :=
  let plain := label.filter isAscii
  let codes := ((label.filter (!isAscii ·)).map Char.toNat).mergeSort.eraseDups
  let state := insertCodes label plain.length 0x80 ⟨72, 0, plain.length, []⟩ codes
  plain ++ (if plain.isEmpty then [] else ['-']) ++ state.written

/-- What has been read of a label: its characters so far, the last code and position that were
inserted, and the number at hand with the weight and the place of its next digit. -/
structure Reading where
  label : List Char
  code : Nat
  position : Nat
  bias : Nat
  number : Nat
  weight : Nat
  place : Nat
  isFirst : Bool
  deriving Repr, DecidableEq

/-- Reads a digit, and inserts a character if it ends a number. -/
def Reading.digit? (reading : Reading) (c : Char) : Option Reading :=
  match digitValue? c with
  | none => none
  | some digit =>
    let number := reading.number + digit * reading.weight
    let t := threshold reading.place reading.bias
    if digit < t then
      let length := reading.label.length + 1
      let code := reading.code + number / length
      let position := number % length
      if code < 0xD800 || (0xE000 ≤ code && code < 0x110000) then
        some
          { label := reading.label.take position ++ Char.ofNat code :: reading.label.drop position
            code
            position := position + 1
            bias := adapt (number - reading.position) length reading.isFirst
            number := position + 1
            weight := 1
            place := 36
            isFirst := false }
      else none
    else
      some { reading with
        number
        weight := reading.weight * (36 - t)
        place := reading.place + 36 }

/-- The label that an ASCII form in lower case stands for. A dash comes only after ASCII
characters, so one in front is taken for a digit, which it is not. -/
def decode? (text : List Char) : Option (List Char) :=
  let backwards := text.reverse
  let plain := ((backwards.dropWhile (· ≠ '-')).drop 1).reverse
  let digits := if plain.isEmpty then text else (backwards.takeWhile (· ≠ '-')).reverse
  match digits.foldlM Reading.digit? ⟨plain, 0x80, 0, 72, 0, 1, 36, true⟩ with
  | some reading => if reading.place = 36 then some reading.label else none
  | none => none

end InferenceBench.Url.Punycode
