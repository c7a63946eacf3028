/-! # UTF-8

A byte sequence is read as a list of symbols: the characters that it spells, and `none` for each
maximal broken part. A text is what is left when no part is broken; a lossy reading puts U+FFFD
in the place of each broken part. -/

namespace InferenceBench.Utf8

def encode (text : List Char) : List UInt8 := text.flatMap String.utf8EncodeChar

/-- A character that has begun: the bits read, how many bytes are still missing, and the range of
the next one. -/
structure Pending where
  bits : Nat
  missing : Nat
  low : Nat
  high : Nat
  deriving Repr, DecidableEq

/-- What a byte starts where no character is pending. -/
inductive Lead where
  /-- A character of its own. -/
  | whole (c : Char)
  | begun (pending : Pending)
  | broken

/-- The first byte fixes the length, and for some lengths narrows the second byte: no character
is spelled longer than it need be, none lies beyond U+10FFFF and none is a surrogate. -/
def lead (byte : UInt8) : Lead :=
  let n := byte.toNat
  if n < 0x80 then .whole (Char.ofNat n)
  else if n < 0xC2 then .broken
  else if n < 0xE0 then .begun ⟨n - 0xC0, 1, 0x80, 0xBF⟩
  else if n = 0xE0 then .begun ⟨0, 2, 0xA0, 0xBF⟩
  else if n = 0xED then .begun ⟨0xD, 2, 0x80, 0x9F⟩
  else if n < 0xF0 then .begun ⟨n - 0xE0, 2, 0x80, 0xBF⟩
  else if n = 0xF0 then .begun ⟨0, 3, 0x90, 0xBF⟩
  else if n < 0xF4 then .begun ⟨n - 0xF0, 3, 0x80, 0xBF⟩
  else if n = 0xF4 then .begun ⟨4, 3, 0x80, 0x8F⟩
  else .broken

/-- The symbols of a byte sequence, given the character that has begun before it. -/
def symbolsFrom : Option Pending → List UInt8 → List (Option Char)
  | none, [] => []
  | some _, [] => [none]
  | none, byte :: rest =>
    match lead byte with
    | .whole c => some c :: symbolsFrom none rest
    | .begun pending => symbolsFrom (some pending) rest
    | .broken => none :: symbolsFrom none rest
  | some pending, byte :: rest =>
    let n := byte.toNat
    if pending.low ≤ n ∧ n ≤ pending.high then
      let bits := pending.bits * 64 + n % 64
      if pending.missing ≤ 1 then some (Char.ofNat bits) :: symbolsFrom none rest
      else symbolsFrom (some ⟨bits, pending.missing - 1, 0x80, 0xBF⟩) rest
    else
      match lead byte with
      | .whole c => none :: some c :: symbolsFrom none rest
      | .begun next => none :: symbolsFrom (some next) rest
      | .broken => none :: none :: symbolsFrom none rest

def symbols (bytes : List UInt8) : List (Option Char) := symbolsFrom none bytes

/-- The text that the bytes spell, if no part of them is broken. -/
def decode? (bytes : List UInt8) : Option (List Char) := (symbols bytes).mapM id

/-- The text with U+FFFD for each broken part. -/
def decodeLossy (bytes : List UInt8) : List Char := (symbols bytes).map (·.getD '\uFFFD')

end InferenceBench.Utf8
