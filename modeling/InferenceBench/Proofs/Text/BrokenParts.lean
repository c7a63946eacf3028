import InferenceBench.Proofs.Text.Utf8
import Mathlib.Tactic.SplitIfs

/-! # Characters and broken parts

A byte sequence is taken apart into the bytes of characters and into broken parts, each of which
goes as far as some character could still have gone on. There is one way to do so, and the symbols
of the sequence follow it.
-/

namespace InferenceBench.Utf8

/-- The bytes are those of a character, or begin them. -/
def StartsCharacter (bytes : List UInt8) : Prop := ∃ c, bytes <+: String.utf8EncodeChar c

/-- No character stands at the start of `part ++ rest`, and `part` is the longest piece there that
starts one; where no byte starts one, it is a single byte. -/
structure BrokenPart (part rest : List UInt8) : Prop where
  nonempty : part ≠ []
  noCharacter : ∀ c, ¬ String.utf8EncodeChar c <+: part ++ rest
  starts : StartsCharacter part ∨ part.length = 1
  longest : ∀ piece, part <+: piece → piece <+: part ++ rest → StartsCharacter piece → piece = part

/-- The bytes are taken apart from the left: `some c` for the bytes of a character, `none` for a
broken part. -/
inductive Reads : List UInt8 → List (Option Char) → Prop where
  | nothing : Reads [] []
  | character (c : Char) {rest : List UInt8} {parts : List (Option Char)}
      (reads : Reads rest parts) :
      Reads (String.utf8EncodeChar c ++ rest) (some c :: parts)
  | broken {part rest : List UInt8} {parts : List (Option Char)} (isBroken : BrokenPart part rest)
      (reads : Reads rest parts) : Reads (part ++ rest) (none :: parts)

/-! ## Completing a character -/

namespace Pending

/-- The next byte does not belong to the character, or there is none. -/
def StopsAt (pending : Pending) (rest : List UInt8) : Prop :=
  ∀ byte ∈ rest.head?, ¬ pending.Takes byte

/-- Some byte may come next. -/
def IsOpen (pending : Pending) : Prop := pending.low ≤ pending.high ∧ pending.high < 0x100

theorem isOpen_next (pending : Pending) (byte : UInt8) : (pending.next byte).IsOpen := by
  simp [IsOpen, next]

theorem IsOpen.takes_low {pending : Pending} (isOpen : pending.IsOpen) :
    pending.Takes (UInt8.ofNat pending.low) := by
  rw [Takes, toNat_byte (Nat.lt_of_le_of_lt isOpen.1 isOpen.2)]
  exact ⟨Nat.le_refl _, isOpen.1⟩

end Pending

section Completing

variable {pending : Pending} {byte : UInt8} {bytes rest tail : List UInt8} {c : Char}

theorem symbolsFrom_stopped (stops : pending.StopsAt rest) :
    symbolsFrom (some pending) rest = none :: symbols rest := by
  cases rest with
  | nil => rfl
  | cons byte rest => rw [symbolsFrom_some_cons, if_neg (stops byte rfl)]

theorem symbolsFrom_some_ne_nil (pending : Pending) (rest : List UInt8) :
    symbolsFrom (some pending) rest ≠ [] := by
  induction rest generalizing pending with
  | nil => exact List.cons_ne_nil _ _
  | cons byte rest ih =>
      rw [symbolsFrom_some_cons]
      split
      · split
        · exact List.cons_ne_nil _ _
        · exact ih _
      · exact List.cons_ne_nil _ _

theorem symbols_eq_nil (nothing : symbols bytes = []) : bytes = [] := by
  cases bytes with
  | nil => rfl
  | cons byte rest =>
      cases begins : lead byte with
      | whole c => cases (symbols_whole begins rest).symm.trans nothing
      | begun pending =>
          exact absurd ((symbolsFrom_begun begins rest).symm.trans nothing)
            (symbolsFrom_some_ne_nil pending rest)
      | broken => cases (symbols_broken begins rest).symm.trans nothing

theorem takes_of_completes (completes : symbolsFrom (some pending) tail = [some c]) :
    ∃ byte rest, tail = byte :: rest ∧ pending.Takes byte := by
  cases tail with
  | nil => cases completes
  | cons byte rest =>
      by_cases takes : pending.Takes byte
      · exact ⟨byte, rest, rfl, takes⟩
      · rw [symbolsFrom_some_cons, if_neg takes] at completes
        cases completes

theorem completes_last (completes : symbolsFrom (some pending) tail = [some c])
    (last : pending.missing ≤ 1) :
    ∃ byte, tail = [byte] ∧ pending.Takes byte ∧ c = Char.ofNat (pending.next byte).bits := by
  obtain ⟨byte, rest, rfl, takes⟩ := takes_of_completes completes
  rw [symbolsFrom_completed takes last] at completes
  obtain ⟨code, nothing⟩ := List.cons.inj completes
  obtain rfl := symbols_eq_nil nothing
  exact ⟨byte, rfl, takes, (Option.some.inj code).symm⟩

theorem completes_further (completes : symbolsFrom (some pending) tail = [some c])
    (more : ¬ pending.missing ≤ 1) :
    ∃ byte rest, tail = byte :: rest ∧ pending.Takes byte ∧
      symbolsFrom (some (pending.next byte)) rest = [some c] := by
  obtain ⟨byte, rest, rfl, takes⟩ := takes_of_completes completes
  rw [symbolsFrom_continued takes more] at completes
  exact ⟨byte, rest, rfl, takes, completes⟩

theorem exists_completion (isOpen : pending.IsOpen) :
    ∃ tail c, symbolsFrom (some pending) tail = [some c] := by
  generalize left : pending.missing = missing
  induction missing generalizing pending with
  | zero => exact ⟨_, _, symbolsFrom_completed isOpen.takes_low (by omega) []⟩
  | succ missing ih =>
      by_cases last : pending.missing ≤ 1
      · exact ⟨_, _, symbolsFrom_completed isOpen.takes_low last []⟩
      · obtain ⟨tail, c, completes⟩ := ih (pending.isOpen_next (UInt8.ofNat pending.low))
          (by simp [Pending.next, left])
        exact ⟨_, c, (symbolsFrom_continued isOpen.takes_low last tail).trans completes⟩

end Completing

/-! ## The bytes of a character -/

theorem toNat_ofNat {n : Nat} (scalar : n.isValidChar) : (Char.ofNat n).val.toNat = n := by
  rw [Char.ofNat, dif_pos scalar]
  rfl

theorem ofNat_eq_byte {n : Nat} {byte : UInt8} (same : byte.toNat = n) : UInt8.ofNat n = byte := by
  rw [← same, UInt8.ofNat_toNat]

section Encoded

variable {bits low high : Nat} {byte : UInt8} {bytes tail : List UInt8} {c : Char}

theorem encoded_one (short : byte.toNat < 0x80) :
    String.utf8EncodeChar (Char.ofNat byte.toNat) = [byte] := by
  rw [String.utf8EncodeChar, toNat_ofNat (by omega), if_pos (by omega), ofNat_eq_byte rfl]

theorem encoded_two (completes : symbolsFrom (some ⟨bits, 1, 0x80, 0xBF⟩) tail = [some c])
    (first : byte.toNat = bits + 192) (long : 2 ≤ bits) (short : bits < 32) :
    String.utf8EncodeChar c = byte :: tail := by
  obtain ⟨second, rfl, ⟨atLeast, atMost⟩, rfl⟩ := completes_last completes (Nat.le_refl 1)
  simp only [Pending.next] at *
  generalize code : bits * 64 + second.toNat % 64 = n
  rw [String.utf8EncodeChar, toNat_ofNat (by omega), if_neg (by omega), if_pos (by omega),
    ofNat_eq_byte (show byte.toNat = n / 64 % 32 + 192 by omega),
    ofNat_eq_byte (show second.toNat = n % 64 + 128 by omega)]

/-- The range of the second byte leaves out the codes of shorter characters and the surrogates. -/
theorem encoded_three (completes : symbolsFrom (some ⟨bits, 2, low, high⟩) tail = [some c])
    (first : byte.toNat = bits + 224) (short : bits < 16) (atLeast : 0x80 ≤ low)
    (atMost : high ≤ 0xBF) (long : 0x800 ≤ bits * 4096 + (low - 128) * 64)
    (scalar : bits * 4096 + (high - 128) * 64 + 63 < 0xD800 ∨
      0xDFFF < bits * 4096 + (low - 128) * 64) :
    String.utf8EncodeChar c = byte :: tail := by
  obtain ⟨second, rest, rfl, ⟨low₂, high₂⟩, further⟩ :=
    completes_further completes (show ¬ 2 ≤ 1 by decide)
  obtain ⟨third, rfl, ⟨low₃, high₃⟩, rfl⟩ := completes_last further (Nat.le_refl 1)
  simp only [Pending.next] at *
  generalize code : (bits * 64 + second.toNat % 64) * 64 + third.toNat % 64 = n
  rw [String.utf8EncodeChar, toNat_ofNat (by omega), if_neg (by omega), if_neg (by omega),
    if_pos (by omega), ofNat_eq_byte (show byte.toNat = n / 4096 % 16 + 224 by omega),
    ofNat_eq_byte (show second.toNat = n / 64 % 64 + 128 by omega),
    ofNat_eq_byte (show third.toNat = n % 64 + 128 by omega)]

/-- The range of the second byte leaves out the codes of shorter characters and those that are too
large. -/
theorem encoded_four (completes : symbolsFrom (some ⟨bits, 3, low, high⟩) tail = [some c])
    (first : byte.toNat = bits + 240) (atLeast : 0x80 ≤ low) (atMost : high ≤ 0xBF)
    (long : 0x10000 ≤ bits * 262144 + (low - 128) * 4096)
    (short : bits * 262144 + (high - 128) * 4096 + 4095 < 0x110000) :
    String.utf8EncodeChar c = byte :: tail := by
  obtain ⟨second, rest, rfl, ⟨low₂, high₂⟩, further⟩ :=
    completes_further completes (show ¬ 3 ≤ 1 by decide)
  obtain ⟨third, rest, rfl, ⟨low₃, high₃⟩, further⟩ :=
    completes_further further (show ¬ 2 ≤ 1 by decide)
  obtain ⟨fourth, rfl, ⟨low₄, high₄⟩, rfl⟩ := completes_last further (Nat.le_refl 1)
  simp only [Pending.next] at *
  generalize code :
    ((bits * 64 + second.toNat % 64) * 64 + third.toNat % 64) * 64 + fourth.toNat % 64 = n
  rw [String.utf8EncodeChar, toNat_ofNat (by omega), if_neg (by omega), if_neg (by omega),
    if_neg (by omega), ofNat_eq_byte (show byte.toNat = n / 262144 % 8 + 240 by omega),
    ofNat_eq_byte (show second.toNat = n / 4096 % 64 + 128 by omega),
    ofNat_eq_byte (show third.toNat = n / 64 % 64 + 128 by omega),
    ofNat_eq_byte (show fourth.toNat = n % 64 + 128 by omega)]

theorem encoded_whole (whole : lead byte = .whole c) : String.utf8EncodeChar c = [byte] := by
  simp only [lead] at whole
  split_ifs at whole with short
  cases whole
  exact encoded_one short

/-- Each range of first bytes has a range of second bytes of its own. -/
theorem encoded_begun {pending : Pending} (begun : lead byte = .begun pending)
    (completes : symbolsFrom (some pending) tail = [some c]) :
    String.utf8EncodeChar c = byte :: tail := by
  simp only [lead] at begun
  split_ifs at begun <;> obtain rfl := Lead.begun.inj begun
  · exact encoded_two completes (by omega) (by omega) (by omega)
  · exact encoded_three completes (by omega) (by omega) (by omega) (by omega) (by omega) (by omega)
  · exact encoded_three completes (by omega) (by omega) (by omega) (by omega) (by omega) (by omega)
  · exact encoded_three completes (by omega) (by omega) (by omega) (by omega) (by omega) (by omega)
  · exact encoded_four completes (by omega) (by omega) (by omega) (by omega) (by omega)
  · exact encoded_four completes (by omega) (by omega) (by omega) (by omega) (by omega)
  · exact encoded_four completes (by omega) (by omega) (by omega) (by omega) (by omega)

theorem isOpen_of_lead {pending : Pending} (begun : lead byte = .begun pending) :
    pending.IsOpen := by
  simp only [lead] at begun
  split_ifs at begun <;> obtain rfl := Lead.begun.inj begun <;> simp [Pending.IsOpen]

theorem encoded_of_symbols (reads : symbols bytes = [some c]) :
    String.utf8EncodeChar c = bytes := by
  cases bytes with
  | nil => cases reads
  | cons byte tail =>
      cases begins : lead byte with
      | whole d =>
          obtain ⟨⟨⟩, nothing⟩ := List.cons.inj ((symbols_whole begins tail).symm.trans reads)
          obtain rfl := symbols_eq_nil nothing
          exact encoded_whole begins
      | begun pending =>
          exact encoded_begun begins ((symbolsFrom_begun begins tail).symm.trans reads)
      | broken => cases (symbols_broken begins tail).symm.trans reads

/-- The bytes begin a character exactly if some bytes after them make the whole one character. -/
theorem startsCharacter_iff :
    StartsCharacter bytes ↔ ∃ tail c, symbols (bytes ++ tail) = [some c] := by
  constructor
  · rintro ⟨c, tail, whole⟩
    refine ⟨tail, c, ?_⟩
    rw [whole, ← List.append_nil (String.utf8EncodeChar c)]
    exact symbolsFrom_encoded c []
  · rintro ⟨tail, c, reads⟩
    exact ⟨c, tail, (encoded_of_symbols reads).symm⟩

theorem not_encoded_prefix {parts : List (Option Char)} (broken : symbols bytes = none :: parts)
    (c : Char) : ¬ String.utf8EncodeChar c <+: bytes := by
  rintro ⟨rest, rfl⟩
  cases (symbolsFrom_encoded c rest).symm.trans broken

end Encoded

/-! ## Broken parts -/

/-- The bytes so far begin a character, and `pending` is what they leave of it. -/
structure Awaits (read : List UInt8) (pending : Pending) : Prop where
  follows : ∀ rest, symbols (read ++ rest) = symbolsFrom (some pending) rest
  isOpen : pending.IsOpen

section Awaits

variable {read rest : List UInt8} {pending : Pending} {byte : UInt8}

theorem awaits_lead (begun : lead byte = .begun pending) : Awaits [byte] pending where
  follows := symbolsFrom_begun begun
  isOpen := isOpen_of_lead begun

theorem Awaits.next (awaits : Awaits read pending) (takes : pending.Takes byte)
    (more : ¬ pending.missing ≤ 1) : Awaits (read ++ [byte]) (pending.next byte) where
  follows rest := by
    rw [List.append_assoc, awaits.follows]
    exact symbolsFrom_continued takes more rest
  isOpen := pending.isOpen_next byte

theorem Awaits.encoded (awaits : Awaits read pending) (takes : pending.Takes byte)
    (last : pending.missing ≤ 1) :
    String.utf8EncodeChar (Char.ofNat (pending.next byte).bits) = read ++ [byte] := by
  apply encoded_of_symbols
  rw [awaits.follows]
  exact symbolsFrom_completed takes last []

theorem Awaits.startsCharacter (awaits : Awaits read pending) : StartsCharacter read := by
  obtain ⟨tail, c, completes⟩ := exists_completion awaits.isOpen
  exact startsCharacter_iff.mpr ⟨tail, c, (awaits.follows tail).trans completes⟩

theorem Awaits.nonempty (awaits : Awaits read pending) : read ≠ [] := by
  rintro rfl
  cases awaits.follows []

/-- A character that has begun is a broken part as soon as it stops: the bytes so far still begin
one, and no longer piece does. -/
theorem Awaits.brokenPart (awaits : Awaits read pending) (stops : pending.StopsAt rest) :
    BrokenPart read rest where
  nonempty := awaits.nonempty
  noCharacter := not_encoded_prefix ((awaits.follows rest).trans (symbolsFrom_stopped stops))
  starts := .inl awaits.startsCharacter
  longest := by
    rintro piece ⟨further, rfl⟩ within starts
    rw [List.prefix_append_right_inj] at within
    obtain ⟨tail, c, completes⟩ := startsCharacter_iff.mp starts
    rw [List.append_assoc, awaits.follows] at completes
    cases further with
    | nil => exact List.append_nil read
    | cons byte further =>
        obtain ⟨rest, rfl⟩ := within
        have stopped : pending.StopsAt (byte :: further ++ tail) := stops
        rw [symbolsFrom_stopped stopped] at completes
        cases completes

theorem brokenPart_lead (broken : lead byte = .broken) (rest : List UInt8) :
    BrokenPart [byte] rest where
  nonempty := List.cons_ne_nil _ _
  noCharacter := not_encoded_prefix (symbols_broken broken rest)
  starts := .inr rfl
  longest := by
    rintro piece ⟨further, rfl⟩ - starts
    obtain ⟨tail, c, completes⟩ := startsCharacter_iff.mp starts
    cases (symbols_broken broken (further ++ tail)).symm.trans completes

end Awaits

/-! ## Taking bytes apart -/

theorem reads_symbolsFrom (bytes : List UInt8) :
    Reads bytes (symbols bytes) ∧ ∀ {read : List UInt8} {pending : Pending}, Awaits read pending →
      Reads (read ++ bytes) (symbolsFrom (some pending) bytes) := by
  induction bytes with
  | nil =>
      refine ⟨.nothing, fun {read pending} awaits => ?_⟩
      have stops : pending.StopsAt [] := fun byte => nofun
      exact .broken (awaits.brokenPart stops) .nothing
  | cons byte rest ih =>
      have fresh : Reads (byte :: rest) (symbols (byte :: rest)) := by
        cases begins : lead byte with
        | whole c =>
            rw [symbols_whole begins]
            have reads := Reads.character c ih.1
            rwa [encoded_whole begins] at reads
        | begun pending =>
            have reads := ih.2 (awaits_lead begins)
            rwa [← symbolsFrom_begun begins] at reads
        | broken =>
            rw [symbols_broken begins]
            exact .broken (brokenPart_lead begins rest) ih.1
      refine ⟨fresh, fun {read pending} awaits => ?_⟩
      by_cases takes : pending.Takes byte
      · rw [List.append_cons]
        by_cases last : pending.missing ≤ 1
        · rw [symbolsFrom_completed takes last, ← awaits.encoded takes last]
          exact .character _ ih.1
        · rw [symbolsFrom_continued takes last]
          exact ih.2 (awaits.next takes last)
      · have stops : pending.StopsAt (byte :: rest) := by
          rintro _ ⟨⟩
          exact takes
        rw [symbolsFrom_stopped stops]
        exact .broken (awaits.brokenPart stops) fresh

theorem BrokenPart.eq_of_append {part other rest more : List UInt8} (first : BrokenPart part rest)
    (second : BrokenPart other more) (same : part ++ rest = other ++ more)
    (shorter : part.length ≤ other.length) : part = other := by
  have begins : part <+: other :=
    List.prefix_of_prefix_length_le (List.prefix_append part rest)
      (same ▸ List.prefix_append other more) shorter
  obtain starts | single := second.starts
  · exact (first.longest other begins (same ▸ List.prefix_append other more) starts).symm
  · have := List.length_pos_iff.mpr first.nonempty
    exact begins.eq_of_length (by omega)

theorem BrokenPart.unique {part other rest more : List UInt8} (first : BrokenPart part rest)
    (second : BrokenPart other more) (same : part ++ rest = other ++ more) :
    part = other ∧ rest = more := by
  have parts : part = other := by
    obtain shorter | longer := Nat.le_total part.length other.length
    · exact first.eq_of_append second same shorter
    · exact (second.eq_of_append first same.symm longer).symm
  subst parts
  exact ⟨rfl, List.append_cancel_left same⟩

theorem encoded_unique {c d : Char} {rest more : List UInt8}
    (same : String.utf8EncodeChar c ++ rest = String.utf8EncodeChar d ++ more) :
    c = d ∧ rest = more := by
  have heads : some c :: symbolsFrom none rest = some d :: symbolsFrom none more := by
    rw [← symbolsFrom_encoded, same, symbolsFrom_encoded]
  obtain ⟨⟨⟩, -⟩ := List.cons.inj heads
  exact ⟨rfl, List.append_cancel_left same⟩

theorem Reads.eq_nil {parts : List (Option Char)} (reads : Reads [] parts) : parts = [] := by
  generalize same : ([] : List UInt8) = bytes at reads
  cases reads with
  | nothing => rfl
  | character c => exact absurd (List.append_eq_nil_iff.mp same.symm).1 String.utf8EncodeChar_ne_nil
  | broken isBroken => exact absurd (List.append_eq_nil_iff.mp same.symm).1 isBroken.nonempty

/-- Where a character stands, no other character and no broken part does. -/
theorem Reads.of_character {c : Char} {rest : List UInt8} {parts : List (Option Char)}
    (reads : Reads (String.utf8EncodeChar c ++ rest) parts) :
    ∃ others, parts = some c :: others ∧ Reads rest others := by
  generalize same : String.utf8EncodeChar c ++ rest = bytes at reads
  cases reads with
  | nothing => exact absurd (List.append_eq_nil_iff.mp same).1 String.utf8EncodeChar_ne_nil
  | character d reads =>
      obtain ⟨rfl, rfl⟩ := encoded_unique same
      exact ⟨_, rfl, reads⟩
  | broken isBroken => exact absurd ⟨rest, same⟩ (isBroken.noCharacter c)

theorem Reads.of_brokenPart {part rest : List UInt8} {parts : List (Option Char)}
    (isBroken : BrokenPart part rest) (reads : Reads (part ++ rest) parts) :
    ∃ others, parts = none :: others ∧ Reads rest others := by
  generalize same : part ++ rest = bytes at reads
  cases reads with
  | nothing => exact absurd (List.append_eq_nil_iff.mp same).1 isBroken.nonempty
  | character c => exact absurd ⟨_, same.symm⟩ (isBroken.noCharacter c)
  | broken other reads =>
      obtain ⟨rfl, rfl⟩ := isBroken.unique other same
      exact ⟨_, rfl, reads⟩

theorem Reads.unique {bytes : List UInt8} {parts others : List (Option Char)}
    (first : Reads bytes parts) (second : Reads bytes others) : parts = others := by
  induction first generalizing others with
  | nothing => exact second.eq_nil.symm
  | character c _ ih =>
      obtain ⟨rest, rfl, reads⟩ := second.of_character
      rw [ih reads]
  | broken isBroken _ ih =>
      obtain ⟨rest, rfl, reads⟩ := second.of_brokenPart isBroken
      rw [ih reads]

/-- The symbols of a byte sequence are the only way to take it apart. -/
theorem reads_iff {bytes : List UInt8} {parts : List (Option Char)} :
    Reads bytes parts ↔ parts = symbols bytes := by
  constructor
  · intro reads
    exact reads.unique (reads_symbolsFrom bytes).1
  · rintro rfl
    exact (reads_symbolsFrom bytes).1

/-- However much there is of a character that breaks off, it is one part; bytes that begin none are
parts of their own. -/
example : symbols [0xF0, 0x9F, 0x98, 0x41, 0xC0, 0x80] = [none, some 'A', none, none] := by decide

end InferenceBench.Utf8
