import InferenceBench.Text.Utf8

/-! # Reading UTF-8 back

A text is read back from its bytes: the first byte of a character fixes how many bytes follow and
the range of the second one, and each further byte adds six bits.
-/

namespace InferenceBench.Utf8

/-! ## First bytes -/

theorem toNat_byte {n : Nat} (small : n < 0x100) : (UInt8.ofNat n).toNat = n := by
  simp [Nat.mod_eq_of_lt small]

theorem lead_one {v : Nat} (short : v < 0x80) :
    lead (UInt8.ofNat v) = .whole (Char.ofNat v) := by
  simp [lead, toNat_byte (show v < 0x100 by omega), short]

theorem lead_two {v : Nat} (long : 0x80 ≤ v) (short : v < 0x800) :
    lead (UInt8.ofNat (v / 64 % 32 + 192)) = .begun ⟨v / 64, 1, 0x80, 0xBF⟩ := by
  simp only [lead, toNat_byte (show v / 64 % 32 + 192 < 0x100 by omega)]
  rw [if_neg (by omega), if_neg (by omega), if_pos (by omega),
    show v / 64 % 32 + 192 - 0xC0 = v / 64 by omega]

/-- The second byte is in the narrow ranges, too: the character is not shorter and no surrogate. -/
theorem lead_three {v : Nat} (long : 0x800 ≤ v) (short : v < 0x10000)
    (scalar : v < 0xD800 ∨ 0xDFFF < v) :
    ∃ low high, lead (UInt8.ofNat (v / 4096 % 16 + 224)) = .begun ⟨v / 4096, 2, low, high⟩ ∧
      low ≤ v / 64 % 64 + 128 ∧ v / 64 % 64 + 128 ≤ high := by
  simp only [lead, toNat_byte (show v / 4096 % 16 + 224 < 0x100 by omega)]
  rw [if_neg (by omega), if_neg (by omega), if_neg (by omega)]
  by_cases first : v / 4096 = 0
  · rw [if_pos (by omega), first]
    exact ⟨0xA0, 0xBF, rfl, by omega, by omega⟩
  · rw [if_neg (by omega)]
    by_cases surrogates : v / 4096 = 0xD
    · rw [if_pos (by omega), surrogates]
      exact ⟨0x80, 0x9F, rfl, by omega, by omega⟩
    · rw [if_neg (by omega), if_pos (by omega),
        show v / 4096 % 16 + 224 - 0xE0 = v / 4096 by omega]
      exact ⟨0x80, 0xBF, rfl, by omega, by omega⟩

/-- The second byte is in the narrow ranges, too: the character is not shorter and not too large. -/
theorem lead_four {v : Nat} (long : 0x10000 ≤ v) (short : v < 0x110000) :
    ∃ low high, lead (UInt8.ofNat (v / 262144 % 8 + 240)) = .begun ⟨v / 262144, 3, low, high⟩ ∧
      low ≤ v / 4096 % 64 + 128 ∧ v / 4096 % 64 + 128 ≤ high := by
  simp only [lead, toNat_byte (show v / 262144 % 8 + 240 < 0x100 by omega)]
  rw [if_neg (by omega), if_neg (by omega), if_neg (by omega), if_neg (by omega),
    if_neg (by omega), if_neg (by omega)]
  by_cases first : v / 262144 = 0
  · rw [if_pos (by omega), first]
    exact ⟨0x90, 0xBF, rfl, by omega, by omega⟩
  · rw [if_neg (by omega)]
    by_cases last : v / 262144 = 4
    · rw [if_neg (by omega), if_pos (by omega), last]
      exact ⟨0x80, 0x8F, rfl, by omega, by omega⟩
    · rw [if_pos (by omega), show v / 262144 % 8 + 240 - 0xF0 = v / 262144 by omega]
      exact ⟨0x80, 0xBF, rfl, by omega, by omega⟩

/-! ## Characters that have begun -/

namespace Pending

/-- The byte may come next. -/
def Takes (pending : Pending) (byte : UInt8) : Prop :=
  pending.low ≤ byte.toNat ∧ byte.toNat ≤ pending.high

instance (pending : Pending) (byte : UInt8) : Decidable (pending.Takes byte) :=
  inferInstanceAs (Decidable (_ ∧ _))

/-- What is left of the character after a byte that it takes. -/
def next (pending : Pending) (byte : UInt8) : Pending :=
  ⟨pending.bits * 64 + byte.toNat % 64, pending.missing - 1, 0x80, 0xBF⟩

end Pending

section Steps

variable {pending : Pending} {byte : UInt8} {c : Char}

/-- A byte that the character does not take ends it as a broken part, and is read anew. -/
theorem symbolsFrom_some_cons (pending : Pending) (byte : UInt8) (rest : List UInt8) :
    symbolsFrom (some pending) (byte :: rest) =
      if pending.Takes byte then
        if pending.missing ≤ 1 then some (Char.ofNat (pending.next byte).bits) :: symbols rest
        else symbolsFrom (some (pending.next byte)) rest
      else none :: symbols (byte :: rest) := by
  rw [symbolsFrom]
  by_cases takes : pending.Takes byte
  · rw [if_pos takes]
    exact if_pos takes
  · rw [if_neg takes, symbols, symbolsFrom]
    refine (if_neg takes).trans ?_
    cases lead byte <;> rfl

theorem symbolsFrom_completed (takes : pending.Takes byte) (last : pending.missing ≤ 1)
    (rest : List UInt8) : symbolsFrom (some pending) (byte :: rest) =
      some (Char.ofNat (pending.next byte).bits) :: symbols rest := by
  rw [symbolsFrom_some_cons, if_pos takes, if_pos last]

theorem symbolsFrom_continued (takes : pending.Takes byte) (more : ¬ pending.missing ≤ 1)
    (rest : List UInt8) : symbolsFrom (some pending) (byte :: rest) =
      symbolsFrom (some (pending.next byte)) rest := by
  rw [symbolsFrom_some_cons, if_pos takes, if_neg more]

theorem symbols_whole (whole : lead byte = .whole c) (rest : List UInt8) :
    symbols (byte :: rest) = some c :: symbols rest := by
  simp only [symbols, symbolsFrom, whole]

theorem symbolsFrom_begun (begun : lead byte = .begun pending) (rest : List UInt8) :
    symbolsFrom none (byte :: rest) = symbolsFrom (some pending) rest := by
  simp only [symbolsFrom, begun]

theorem symbols_broken (broken : lead byte = .broken) (rest : List UInt8) :
    symbols (byte :: rest) = none :: symbols rest := by
  simp only [symbols, symbolsFrom, broken]

end Steps

/-! ## Further bytes -/

section Further

variable {bits missing low high n : Nat}

theorem Pending.takes_sixBits (atLeast : low ≤ n % 64 + 128) (atMost : n % 64 + 128 ≤ high) :
    Takes ⟨bits, missing, low, high⟩ (UInt8.ofNat (n % 64 + 128)) := by
  rw [Takes, toNat_byte (show n % 64 + 128 < 0x100 by omega)]
  exact ⟨atLeast, atMost⟩

theorem Pending.next_sixBits (bits missing low high n : Nat) :
    next ⟨bits, missing, low, high⟩ (UInt8.ofNat (n % 64 + 128)) =
      ⟨bits * 64 + n % 64, missing - 1, 0x80, 0xBF⟩ := by
  rw [next, toNat_byte (show n % 64 + 128 < 0x100 by omega),
    show (n % 64 + 128) % 64 = n % 64 by omega]

variable (atLeast : low ≤ n % 64 + 128) (atMost : n % 64 + 128 ≤ high) (rest : List UInt8)
include atLeast atMost

theorem symbolsFrom_last :
    symbolsFrom (some ⟨bits, 1, low, high⟩) (UInt8.ofNat (n % 64 + 128) :: rest) =
      some (Char.ofNat (bits * 64 + n % 64)) :: symbolsFrom none rest := by
  rw [symbolsFrom_completed (Pending.takes_sixBits atLeast atMost) (Nat.le_refl 1),
    Pending.next_sixBits, symbols]

/-- A byte before the last one adds its six bits, and the next one may be any further byte. -/
theorem symbolsFrom_further (missing : Nat) :
    symbolsFrom (some ⟨bits, missing + 2, low, high⟩) (UInt8.ofNat (n % 64 + 128) :: rest) =
      symbolsFrom (some ⟨bits * 64 + n % 64, missing + 1, 0x80, 0xBF⟩) rest := by
  have more : ¬ missing + 2 ≤ 1 := by omega
  rw [symbolsFrom_continued (Pending.takes_sixBits atLeast atMost) more, Pending.next_sixBits,
    show missing + 2 - 1 = missing + 1 from rfl]

end Further

/-! ## A text -/

theorem scalar_of_char (c : Char) :
    c.toNat < 0xD800 ∨ 0xDFFF < c.toNat ∧ c.toNat < 0x110000 := c.valid

theorem symbolsFrom_encoded (c : Char) (rest : List UInt8) :
    symbolsFrom none (String.utf8EncodeChar c ++ rest) = some c :: symbolsFrom none rest := by
  have scalar := scalar_of_char c
  have code : Char.ofNat c.toNat = c := Char.ofNat_toNat c
  generalize value : c.toNat = v at scalar code
  change c.val.toNat = v at value
  rw [String.utf8EncodeChar, value]
  by_cases one : v ≤ 127
  · simp [one, symbolsFrom, lead_one (show v < 0x80 by omega), code]
  · by_cases two : v ≤ 2047
    · simp only [one, two, if_false, if_true, List.cons_append, List.nil_append]
      rw [symbolsFrom_begun (lead_two (by omega) (by omega)),
        symbolsFrom_last (by omega) (by omega), show v / 64 * 64 + v % 64 = v by omega, code]
    · by_cases three : v ≤ 65535
      · obtain ⟨low, high, begun, atLeast, atMost⟩ :=
          lead_three (show 0x800 ≤ v by omega) (show v < 0x10000 by omega) (by omega)
        simp only [one, two, three, if_false, if_true, List.cons_append, List.nil_append]
        rw [symbolsFrom_begun begun, symbolsFrom_further atLeast atMost,
          symbolsFrom_last (by omega) (by omega),
          show (v / 4096 * 64 + v / 64 % 64) * 64 + v % 64 = v by omega, code]
      · obtain ⟨low, high, begun, atLeast, atMost⟩ :=
          lead_four (show 0x10000 ≤ v by omega) (show v < 0x110000 by omega)
        simp only [one, two, three, if_false, List.cons_append, List.nil_append]
        rw [symbolsFrom_begun begun, symbolsFrom_further atLeast atMost,
          symbolsFrom_further (by omega) (by omega), symbolsFrom_last (by omega) (by omega),
          show ((v / 262144 * 64 + v / 4096 % 64) * 64 + v / 64 % 64) * 64 + v % 64 = v by omega,
          code]

/-- The symbols of a text are its characters, and what follows its bytes is read on its own. -/
theorem symbols_encode_append (text : List Char) (rest : List UInt8) :
    symbols (encode text ++ rest) = text.map some ++ symbols rest := by
  induction text with
  | nil => rfl
  | cons c text ih =>
      rw [encode, List.flatMap_cons, List.append_assoc, symbols, symbolsFrom_encoded]
      exact congrArg (some c :: ·) ih

theorem symbols_encode (text : List Char) : symbols (encode text) = text.map some := by
  have whole := symbols_encode_append text []
  rwa [List.append_nil, show symbols [] = [] from rfl, List.append_nil] at whole

theorem decode?_encode (text : List Char) : decode? (encode text) = some text := by
  rw [decode?, symbols_encode]
  induction text with
  | nil => rfl
  | cons c text ih => simp_all

theorem decodeLossy_encode_append (text : List Char) (rest : List UInt8) :
    decodeLossy (encode text ++ rest) = text ++ decodeLossy rest := by
  rw [decodeLossy, symbols_encode_append]
  simp [decodeLossy, Function.comp_def]

theorem decodeLossy_encode (text : List Char) : decodeLossy (encode text) = text := by
  rw [decodeLossy, symbols_encode]
  simp [Function.comp_def]

end InferenceBench.Utf8
