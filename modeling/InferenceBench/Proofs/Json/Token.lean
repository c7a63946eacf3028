import InferenceBench.Json.Printer
import Mathlib.Data.List.Basic

/-! # Written tokens

The machine reads a written number or string as the token that it was written from. A string ends
at its quote, whatever follows it. A number has no end of its own, so it is read back only before a
symbol that does not continue it.
-/

namespace InferenceBench.Json

/-- The symbols before which every number ends, and the end of the text. -/
def Ends (rest : List (Option Char)) : Prop :=
  ∀ symbol ∈ rest.head?, symbol ∈ [some ',', some '\n', some ']', some '\x7D']

@[simp]
theorem ends_nil : Ends [] := by simp [Ends]

@[simp]
theorem ends_comma (rest : List (Option Char)) : Ends (some ',' :: rest) := by simp [Ends]

@[simp]
theorem ends_closeArray (rest : List (Option Char)) : Ends (some ']' :: rest) := by simp [Ends]

@[simp]
theorem ends_closeObject (rest : List (Option Char)) : Ends (some '\x7D' :: rest) := by
  simp [Ends]

@[simp]
theorem ends_newLine (rest : List (Option Char)) : Ends (some '\n' :: rest) := by simp [Ends]

/-- A symbol that completes no token only changes the mode. -/
theorem tokens_quiet {mode next : Mode} {symbol : Option Char}
    (step : mode.step symbol = some ([], next)) (rest : List (Option Char)) :
    mode.tokens (symbol :: rest) = next.tokens rest := by
  simp [Mode.tokens, step]

theorem tokens_complete {mode next : Mode} {symbol : Option Char} {token : Token}
    (step : mode.step symbol = some ([token], next)) (rest : List (Option Char)) :
    mode.tokens (symbol :: rest) = (next.tokens rest).map (token :: ·) := by
  simp only [Mode.tokens, step]
  rfl

/-! ## Names -/

theorem tokens_word {missing : List Char} (some : missing ≠ []) (token : Token)
    (rest : List (Option Char)) :
    (Mode.word missing token).tokens (missing.map Option.some ++ rest) =
      (Mode.between.tokens rest).map (token :: ·) := by
  induction missing with
  | nil => exact absurd rfl some
  | cons c missing ih =>
      cases missing with
      | nil =>
          have last : (Mode.word [c] token).step c = Option.some ([token], .between) := by
            simp [Mode.step]
          exact tokens_complete last rest
      | cons next missing =>
          have quiet : (Mode.word (c :: next :: missing) token).step c =
              Option.some ([], .word (next :: missing) token) := by simp [Mode.step]
          rw [List.map_cons, List.cons_append, tokens_quiet quiet, ih (List.cons_ne_nil _ _)]

theorem tokens_null (rest : List (Option Char)) :
    Mode.between.tokens ("null".toList.map some ++ rest) =
      (Mode.between.tokens rest).map (Token.null :: ·) := by
  have opened : Mode.between.step (some 'n') = some ([], .word "ull".toList .null) := rfl
  exact (tokens_quiet opened _).trans (tokens_word (by decide) .null rest)

theorem tokens_boolean (flag : Bool) (rest : List (Option Char)) :
    Mode.between.tokens ((booleanText flag).map some ++ rest) =
      (Mode.between.tokens rest).map (Token.boolean flag :: ·) := by
  cases flag with
  | false =>
      have opened : Mode.between.step (some 'f') =
          some ([], .word "alse".toList (.boolean false)) := rfl
      exact (tokens_quiet opened _).trans (tokens_word (by decide) (.boolean false) rest)
  | true =>
      have opened : Mode.between.step (some 't') = some ([], .word "rue".toList (.boolean true)) :=
        rfl
      exact (tokens_quiet opened _).trans (tokens_word (by decide) (.boolean true) rest)

/-! ## Numbers -/

/-- The place in a number that is reached after its symbols. -/
def NumberPart.after? (part : NumberPart) (text : List Char) : Option NumberPart :=
  text.foldlM NumberPart.next? part

/-- A text that is a number without sign. -/
def Scans (text : List Char) : Prop :=
  ∃ part : NumberPart, NumberPart.sign.after? text = some part ∧ part.isComplete = true

/-- A text that is a number. -/
inductive NumberText : List Char → Prop where
  | unsigned {text : List Char} (scans : Scans text) : NumberText text
  | negative {text : List Char} (scans : Scans text) : NumberText ('-' :: text)

theorem tokens_after {part last : NumberPart} {text : List Char}
    (reached : part.after? text = some last) (before : List Char) (rest : List (Option Char)) :
    (Mode.number part before).tokens (text.map some ++ rest) =
      (Mode.number last (text.reverse ++ before)).tokens rest := by
  induction text generalizing part before with
  | nil =>
      obtain rfl := Option.some.inj reached
      rfl
  | cons c text ih =>
      obtain ⟨next, step, reached⟩ := Option.bind_eq_some_iff.mp reached
      have quiet : (Mode.number part before).step (some c) =
          some ([], .number next (c :: before)) := by
        simp [Mode.step, step]
      rw [List.map_cons, List.cons_append, tokens_quiet quiet, ih reached, List.reverse_cons,
        List.append_assoc]
      rfl

/-- A number ends before a symbol that ends numbers. -/
theorem tokens_ended {part : NumberPart} (complete : part.isComplete = true) (before : List Char)
    {rest : List (Option Char)} (ends : Ends rest) :
    (Mode.number part before).tokens rest =
      (Mode.between.tokens rest).map (Token.number before.reverse :: ·) := by
  cases rest with
  | nil => simp [Mode.tokens, Mode.finish, complete]
  | cons symbol rest =>
      obtain ⟨c, rfl, stops⟩ : ∃ c, symbol = some c ∧ part.next? c = none := by
        have := ends symbol rfl
        simp only [List.mem_cons, List.not_mem_nil, or_false] at this
        obtain rfl | rfl | rfl | rfl := this
        all_goals exact ⟨_, rfl, by cases part <;> rfl⟩
      simp only [Mode.tokens, Mode.step, stops, complete, if_true]
      cases Mode.begin c with
      | none => rfl
      | some begun =>
          simp only [Option.map_some, Option.map_map, Function.comp_def, List.cons_append]

theorem begin_of_next? {c : Char} {part : NumberPart} (next : NumberPart.sign.next? c = some part) :
    Mode.begin c = some ([], .number part [c]) := by
  unfold Mode.begin
  split
  case h_12 =>
    have notBlank : isJsonBlank c = false := by
      simp only [isJsonBlank, Bool.or_eq_false_iff, decide_eq_false_iff_not]
      refine ⟨⟨⟨?_, ?_⟩, ?_⟩, ?_⟩ <;> rintro rfl <;> cases next
    simp [notBlank, next]
  all_goals cases next

theorem tokens_numberText {text : List Char} (number : NumberText text) {rest : List (Option Char)}
    (ends : Ends rest) :
    Mode.between.tokens (text.map some ++ rest) =
      (Mode.between.tokens rest).map (Token.number text :: ·) := by
  cases number with
  | unsigned scans =>
      obtain ⟨last, reached, complete⟩ := scans
      cases text with
      | nil =>
          obtain rfl := Option.some.inj reached
          cases complete
      | cons c text =>
          obtain ⟨next, step, reached⟩ := Option.bind_eq_some_iff.mp reached
          have quiet : Mode.between.step (some c) = some ([], .number next [c]) :=
            begin_of_next? step
          rw [List.map_cons, List.cons_append, tokens_quiet quiet, tokens_after reached,
            tokens_ended complete _ ends]
          simp
  | @negative text scans =>
      obtain ⟨last, reached, complete⟩ := scans
      have quiet : Mode.between.step (some '-') = some ([], .number .sign ['-']) := rfl
      rw [List.map_cons, List.cons_append, tokens_quiet quiet, tokens_after reached,
        tokens_ended complete _ ends]
      simp

/-! ## Strings -/

theorem tokens_escape {mark c : Char} (stands : unescape? mark = some c) (before : List Piece)
    (rest : List (Option Char)) :
    (Mode.text before).tokens (some '\\' :: some mark :: rest) =
      (Mode.text (.char c :: before)).tokens rest := by
  have notUnit : mark ≠ 'u' := by
    rintro rfl
    cases stands
  have opened : (Mode.text before).step (some '\\') = some ([], .escape before) := rfl
  have closed : (Mode.escape before).step (some mark) = some ([], .text (.char c :: before)) := by
    simp [Mode.step, notUnit, stands]
  rw [tokens_quiet opened, tokens_quiet closed]

/-- The escape of a control character has two digits that may differ from zero. -/
theorem unitText_control : ∀ n < 0x20,
    unitText n = ['\\', 'u', '0', '0', Nat.digitChar (n / 16), Nat.digitChar (n % 16)] ∧
      Numeral.hexDigit? (Nat.digitChar (n / 16)) = some (n / 16) ∧
      Numeral.hexDigit? (Nat.digitChar (n % 16)) = some (n % 16) ∧
      Piece.ofUnit n = .char (Char.ofNat n) := by
  decide

theorem tokens_unitText {n : Nat} (control : n < 0x20) (before : List Piece)
    (rest : List (Option Char)) :
    (Mode.text before).tokens ((unitText n).map some ++ rest) =
      (Mode.text (.char (Char.ofNat n) :: before)).tokens rest := by
  obtain ⟨text, first, second, piece⟩ := unitText_control n control
  have high : (Mode.unit before 2 0).step (some (Nat.digitChar (n / 16))) =
      some ([], .unit before 1 (n / 16)) := by
    simp [Mode.step, first]
  have low : (Mode.unit before 1 (n / 16)).step (some (Nat.digitChar (n % 16))) =
      some ([], .text (.char (Char.ofNat n) :: before)) := by
    have sum : n / 16 * 16 + n % 16 = n := by omega
    simp [Mode.step, second, sum, piece]
  have opened : (Mode.text before).step (some '\\') = some ([], .escape before) := rfl
  have unit : (Mode.escape before).step (some 'u') = some ([], .unit before 4 0) := rfl
  have zero (missing : Nat) : (Mode.unit before (missing + 2) 0).step (some '0') =
      some ([], .unit before (missing + 1) 0) := rfl
  rw [text]
  simp only [List.map_cons, List.map_nil, List.cons_append, List.nil_append]
  rw [tokens_quiet opened, tokens_quiet unit, tokens_quiet (zero 2), tokens_quiet (zero 1),
    tokens_quiet high, tokens_quiet low]

theorem tokens_charText (c : Char) (before : List Piece) (rest : List (Option Char)) :
    (Mode.text before).tokens ((charText c).map some ++ rest) =
      (Mode.text (.char c :: before)).tokens rest := by
  unfold charText
  split
  case h_8 notQuote notBackslash _ _ _ _ _ =>
    split
    · next control => rw [tokens_unitText control, Char.ofNat_toNat]
    · next plain =>
        have kept : (Mode.text before).step (some c) = some ([], .text (.char c :: before)) := by
          simp only [Mode.step, if_neg notQuote, if_neg notBackslash, if_neg plain]
        exact tokens_quiet kept rest
  all_goals exact tokens_escape rfl before rest

theorem tokens_chars (text : List Char) (before : List Piece) (rest : List (Option Char)) :
    (Mode.text before).tokens (((text.map Piece.char).flatMap Piece.written).map some ++ rest) =
      (Mode.text ((text.map Piece.char).reverse ++ before)).tokens rest := by
  induction text generalizing before with
  | nil => rfl
  | cons c text ih =>
      rw [List.map_cons, List.flatMap_cons, List.map_append, List.append_assoc, List.reverse_cons,
        List.append_assoc]
      exact (tokens_charText c before _).trans (ih _)

theorem tokens_stringText (text : List Char) (rest : List (Option Char)) :
    Mode.between.tokens ((stringText (text.map Piece.char)).map some ++ rest) =
      (Mode.between.tokens rest).map (Token.text (text.map Piece.char) :: ·) := by
  have opened : Mode.between.step (some '"') = some ([], .text []) := rfl
  have closed : (Mode.text (text.map Piece.char).reverse).step (some '"') =
      some ([.text (text.map Piece.char)], .between) := by
    simp [Mode.step]
  rw [stringText, List.cons_append, List.map_cons, List.cons_append, tokens_quiet opened,
    List.map_append, List.append_assoc, tokens_chars, List.append_nil]
  exact tokens_complete closed rest

end InferenceBench.Json
