import InferenceBench.Accuracy.Prompts
import Mathlib.Data.List.Basic

/-! # The lines of a file of prompts

Each line is blank, holds a prompt or is at fault, whatever its number. The prompts before the
first fault are those that can be read, so a limit that they reach hides the fault, and any other
limit leaves it. Blank lines only move the numbers of the lines that follow them.
-/

namespace InferenceBench

open Json

/-- The error with another line number. -/
def PromptError.atLine (line : Nat) : PromptError → PromptError
  | .unreadable _ => .unreadable line
  | .invalid _ text => .invalid line text
  | .missingField _ => .missingField line

/-! ## Lines -/

def BlankLine (bytes : List UInt8) : Prop :=
  ∃ text, Utf8.decode? bytes = some text ∧ Text.trim text = []

def PromptLine (bytes : List UInt8) (prompt : String) : Prop :=
  ∃ text value, Utf8.decode? bytes = some text ∧ Value.ofText? (Text.trim text) = some value ∧
    promptOf? value = some prompt

/-- A line that neither is blank nor holds a prompt, with the error that it gives by its number. -/
inductive FaultyLine (bytes : List UInt8) : (Nat → PromptError) → Prop
  | unreadable : Utf8.decode? bytes = none → FaultyLine bytes .unreadable
  | invalid {text} : Utf8.decode? bytes = some text → Text.trim text ≠ [] →
      Value.ofText? (Text.trim text) = none → FaultyLine bytes (.invalid · (Text.trim text))
  | missingField {text value} : Utf8.decode? bytes = some text →
      Value.ofText? (Text.trim text) = some value → promptOf? value = none →
      FaultyLine bytes .missingField

section

variable {bytes : List UInt8}

theorem ofText?_nil : Value.ofText? [] = none := rfl

theorem trim_ne_nil {text : List Char} {value : Value}
    (read : Value.ofText? (Text.trim text) = some value) : Text.trim text ≠ [] := by
  intro blank
  rw [blank, ofText?_nil] at read
  cases read

theorem readPromptLine_of_blank (blank : BlankLine bytes) (line : Nat) :
    readPromptLine line bytes = .ok none := by
  obtain ⟨text, spelled, empty⟩ := blank
  simp [readPromptLine, spelled, empty]

theorem readPromptLine_of_prompt {prompt : String} (holds : PromptLine bytes prompt) (line : Nat) :
    readPromptLine line bytes = .ok (some prompt) := by
  obtain ⟨text, value, spelled, read, found⟩ := holds
  simp [readPromptLine, spelled, read, found, trim_ne_nil read]

theorem readPromptLine_of_faulty {fault : Nat → PromptError} (faulty : FaultyLine bytes fault)
    (line : Nat) : readPromptLine line bytes = .error (fault line) := by
  cases faulty with
  | unreadable broken => simp [readPromptLine, broken]
  | invalid spelled some notJson => simp [readPromptLine, spelled, some, notJson]
  | missingField spelled read missing =>
      simp [readPromptLine, spelled, read, missing, trim_ne_nil read]

theorem line_cases (bytes : List UInt8) :
    BlankLine bytes ∨ (∃ prompt, PromptLine bytes prompt) ∨ ∃ fault, FaultyLine bytes fault := by
  cases spelled : Utf8.decode? bytes with
  | none => exact .inr (.inr ⟨_, .unreadable spelled⟩)
  | some text =>
      by_cases blank : Text.trim text = []
      · exact .inl ⟨text, spelled, blank⟩
      · cases read : Value.ofText? (Text.trim text) with
        | none => exact .inr (.inr ⟨_, .invalid spelled blank read⟩)
        | some value =>
            cases found : promptOf? value with
            | none => exact .inr (.inr ⟨_, .missingField spelled read found⟩)
            | some prompt => exact .inr (.inl ⟨prompt, text, value, spelled, read, found⟩)

theorem FaultyLine.atLine {fault : Nat → PromptError} (faulty : FaultyLine bytes fault)
    (line other : Nat) : (fault line).atLine other = fault other := by
  cases faulty <;> rfl

end

/-! ## Lines before the first fault -/

/-- Lines without fault, and the prompts that they hold in turn. -/
inductive Hold : List (List UInt8) → List String → Prop
  | nil : Hold [] []
  | blank {bytes lines prompts} : BlankLine bytes → Hold lines prompts →
      Hold (bytes :: lines) prompts
  | prompt {bytes lines prompt prompts} : PromptLine bytes prompt → Hold lines prompts →
      Hold (bytes :: lines) (prompt :: prompts)

/-- The error of the first line at fault, after lines that hold the prompts. It names the line by
its number, for which all lines count. -/
structure FirstFault (lines before : List (List UInt8)) (prompts : List String)
    (error : PromptError) : Prop where
  held : Hold before prompts
  faulty : ∃ bad after fault, lines = before ++ bad :: after ∧ FaultyLine bad fault ∧
    error = fault (before.length + 1)

theorem hold_or_fault (lines : List (List UInt8)) :
    (∃ prompts, Hold lines prompts) ∨
      ∃ before prompts error, FirstFault lines before prompts error := by
  induction lines with
  | nil => exact .inl ⟨[], .nil⟩
  | cons bytes lines ih =>
      rcases line_cases bytes with blank | ⟨prompt, holds⟩ | ⟨fault, faulty⟩
      · rcases ih with ⟨prompts, held⟩ | ⟨before, prompts, _, held, bad, after, fault, rfl, faulty,
          rfl⟩
        · exact .inl ⟨prompts, .blank blank held⟩
        · exact .inr ⟨bytes :: before, prompts, _, .blank blank held, bad, after, fault, rfl,
            faulty, rfl⟩
      · rcases ih with ⟨prompts, held⟩ | ⟨before, prompts, _, held, bad, after, fault, rfl, faulty,
          rfl⟩
        · exact .inl ⟨prompt :: prompts, .prompt holds held⟩
        · exact .inr ⟨bytes :: before, prompt :: prompts, _, .prompt holds held, bad, after, fault,
            rfl, faulty, rfl⟩
      · exact .inr ⟨[], [], _, .nil, bytes, lines, fault, rfl, faulty, rfl⟩

/-! ## Reading -/

theorem notEnough_of_le {limit : Option Nat} {count more : Nat}
    (notEnough : isEnough limit more = false) (le : count ≤ more) :
    isEnough limit count = false := by
  cases limit with
  | none => rfl
  | some limit =>
      simp only [isEnough, decide_eq_false_iff_not] at notEnough ⊢
      omega

theorem readPromptLines_through {limit : Option Nat} {before : List (List UInt8)}
    {prompts : List String} (held : Hold before prompts) {count : Nat}
    (notEnough : isEnough limit (count + prompts.length) = false) (line : Nat)
    (rest : List (List UInt8)) :
    readPromptLines limit line count (before ++ rest) =
      (readPromptLines limit (line + before.length) (count + prompts.length) rest).map
        (prompts ++ ·) := by
  -- by induction on the lines: as long as the prompts are not enough, all of them are read
  induction held generalizing line count with
  | nil =>
      simp only [List.nil_append, List.length_nil, Nat.add_zero]
      cases readPromptLines limit line count rest <;> rfl
  | @blank bytes lines prompts blank held ih =>
      have goesOn := notEnough_of_le notEnough (Nat.le_add_right count _)
      rw [List.cons_append, readPromptLines, goesOn, readPromptLine_of_blank blank]
      simp only [Bool.false_eq_true, if_false, ih notEnough, List.length_cons]
      rw [Nat.add_right_comm, ← Nat.add_assoc]
  | @prompt bytes lines prompt prompts holds held ih =>
      have goesOn := notEnough_of_le notEnough (Nat.le_add_right count _)
      have lineAfter : line + (lines.length + 1) = line + 1 + lines.length := by omega
      have countAfter : count + (prompts.length + 1) = count + 1 + prompts.length := by omega
      rw [List.length_cons, countAfter] at notEnough
      rw [List.cons_append, readPromptLines, goesOn, readPromptLine_of_prompt holds]
      simp only [Bool.false_eq_true, if_false, ih notEnough, List.length_cons, lineAfter,
        countAfter]
      cases readPromptLines limit (line + 1 + lines.length) (count + 1 + prompts.length)
        rest <;> rfl

theorem readPromptLines_within {before : List (List UInt8)} {prompts : List String}
    (held : Hold before prompts) {limit count : Nat} (enough : limit ≤ count + prompts.length)
    (line : Nat) (rest : List (List UInt8)) :
    readPromptLines (some limit) line count (before ++ rest) =
      .ok (prompts.take (limit - count)) := by
  -- by induction on the lines: what follows the last prompt within the limit is not looked at
  induction held generalizing line count with
  | nil =>
      simp at enough
      cases rest <;> simp [readPromptLines, isEnough, enough]
  | blank blank held ih =>
      by_cases reached : limit ≤ count
      · simp [readPromptLines, isEnough, reached]
      · simp [readPromptLines, isEnough, reached, readPromptLine_of_blank blank, ih enough]
  | @prompt bytes lines prompt prompts holds held ih =>
      by_cases reached : limit ≤ count
      · simp [readPromptLines, isEnough, reached]
      · have enough : limit ≤ count + 1 + prompts.length := by
          rw [List.length_cons] at enough
          omega
        obtain ⟨more, same⟩ : ∃ more, limit - count = more + 1 := ⟨limit - (count + 1), by omega⟩
        have same' : limit - (count + 1) = more := by omega
        simp [readPromptLines, isEnough, reached, readPromptLine_of_prompt holds, ih enough, same,
          same', Except.map]

/-- The prompts that a limit leaves. -/
def withinLimit (limit : Option Nat) (prompts : List String) : List String :=
  match limit with
  | some limit => prompts.take limit
  | none => prompts

section

variable {bytes : List UInt8} {prompts : List String} (limit : Option Nat)

theorem readPromptLines_hold {before : List (List UInt8)} (held : Hold before prompts)
    (rest : List (List UInt8)) (last : rest = [] ∨ isEnough limit prompts.length = true) :
    readPromptLines limit 1 0 (before ++ rest) = .ok (withinLimit limit prompts) := by
  cases enough : isEnough limit prompts.length with
  | true =>
      cases limit with
      | none => cases enough
      | some limit =>
          rw [isEnough, decide_eq_true_eq] at enough
          exact readPromptLines_within held (by omega) 1 rest
  | false =>
      obtain rfl := last.resolve_right (by simp [enough])
      rw [readPromptLines_through held (by simpa using enough)]
      simp only [readPromptLines, Except.map, List.append_nil]
      cases limit with
      | none => rfl
      | some limit =>
          rw [isEnough, decide_eq_false_iff_not] at enough
          rw [withinLimit, List.take_of_length_le (by omega)]

theorem readPrompts_of_hold (held : Hold (fileLines bytes) prompts) :
    readPrompts limit bytes = .ok (withinLimit limit prompts) := by
  have read := readPromptLines_hold limit held [] (.inl rfl)
  rwa [List.append_nil] at read

/-- A line at fault is not looked at if the limit is reached before it. -/
theorem readPrompts_of_fault {before : List (List UInt8)} {error : PromptError}
    (first : FirstFault (fileLines bytes) before prompts error) :
    readPrompts limit bytes =
      if isEnough limit prompts.length then .ok (withinLimit limit prompts) else .error error := by
  obtain ⟨held, bad, after, fault, lines, faulty, rfl⟩ := first
  rw [readPrompts, lines]
  split
  · next enough => exact readPromptLines_hold limit held _ (.inr enough)
  · next notEnough =>
      rw [Bool.not_eq_true] at notEnough
      rw [readPromptLines_through held (by simpa using notEnough), Nat.zero_add, readPromptLines,
        notEnough, readPromptLine_of_faulty faulty, Nat.add_comm]
      rfl

end

/-! ## Blank lines -/

/-- Lines with blank lines put among them. -/
inductive PaddedLines : List (List UInt8) → List (List UInt8) → Prop
  | nil : PaddedLines [] []
  | keep {lines padded} (bytes : List UInt8) : PaddedLines lines padded →
      PaddedLines (bytes :: lines) (bytes :: padded)
  | insert {blank lines padded} : BlankLine blank → PaddedLines lines padded →
      PaddedLines lines (blank :: padded)

namespace PaddedLines

theorem refl (lines : List (List UInt8)) : PaddedLines lines lines := by
  induction lines with
  | nil => exact .nil
  | cons bytes lines ih => exact .keep bytes ih

theorem blanks {lines : List (List UInt8)} (all : ∀ bytes ∈ lines, BlankLine bytes) :
    PaddedLines [] lines := by
  induction lines with
  | nil => exact .nil
  | cons bytes lines ih =>
      obtain ⟨blank, others⟩ := List.forall_mem_cons.mp all
      exact .insert blank (ih others)

theorem append {lines padded others paddedOthers : List (List UInt8)}
    (first : PaddedLines lines padded) (second : PaddedLines others paddedOthers) :
    PaddedLines (lines ++ others) (padded ++ paddedOthers) := by
  induction first with
  | nil => exact second
  | keep bytes _ ih => exact .keep bytes ih
  | insert blank _ ih => exact .insert blank ih

theorem trans {lines padded more : List (List UInt8)} (first : PaddedLines lines padded)
    (second : PaddedLines padded more) : PaddedLines lines more := by
  induction second generalizing lines with
  | nil => exact first
  | insert blank _ ih => exact .insert blank (ih first)
  | keep bytes _ ih =>
      cases first with
      | keep _ rest => exact .keep bytes (ih rest)
      | insert blank rest => exact .insert blank (ih rest)

theorem hold {lines padded : List (List UInt8)} {prompts : List String}
    (padding : PaddedLines lines padded) (held : Hold lines prompts) : Hold padded prompts := by
  induction padding generalizing prompts with
  | nil => exact held
  | insert blank _ ih => exact .blank blank (ih held)
  | keep bytes _ ih =>
      cases held with
      | blank blank held => exact .blank blank (ih held)
      | prompt holds held => exact .prompt holds (ih held)

theorem split {before after padded : List (List UInt8)} {bytes : List UInt8}
    (padding : PaddedLines (before ++ bytes :: after) padded) :
    ∃ front back, padded = front ++ bytes :: back ∧ PaddedLines before front := by
  generalize same : before ++ bytes :: after = lines at padding
  induction padding generalizing before with
  | nil => simp at same
  | @insert blank lines padded isBlank _ ih =>
      obtain ⟨front, back, rfl, rest⟩ := ih same
      exact ⟨blank :: front, back, rfl, .insert isBlank rest⟩
  | @keep lines padded first _ ih =>
      cases before with
      | nil =>
          obtain ⟨rfl, -⟩ := List.cons.inj same
          exact ⟨[], padded, rfl, .nil⟩
      | cons head before =>
          obtain ⟨rfl, others⟩ := List.cons.inj same
          obtain ⟨front, back, rfl, rest⟩ := ih others
          exact ⟨head :: front, back, rfl, .keep head rest⟩

theorem firstFault {lines padded before : List (List UInt8)} {prompts : List String}
    {error : PromptError} (padding : PaddedLines lines padded)
    (first : FirstFault lines before prompts error) :
    ∃ front, FirstFault padded front prompts (error.atLine (front.length + 1)) := by
  obtain ⟨held, bad, after, fault, rfl, faulty, rfl⟩ := first
  obtain ⟨front, back, rfl, rest⟩ := padding.split
  exact ⟨front, rest.hold held, bad, back, fault, rfl, faulty, faulty.atLine _ _⟩

end PaddedLines

/-! ## Lines of a file -/

section

variable (before after : List UInt8)

theorem parts_ne_nil (bytes : List UInt8) : Text.partsBy (· = 10) bytes ≠ [] := by
  cases bytes with
  | nil => exact List.cons_ne_nil _ _
  | cons byte bytes =>
      rw [Text.partsBy]
      split
      · exact List.cons_ne_nil _ _
      · split <;> exact List.cons_ne_nil _ _

theorem parts_append :
    Text.partsBy (· = 10) (before ++ 10 :: after) =
      Text.partsBy (· = 10) before ++ Text.partsBy (· = 10) after := by
  induction before with
  | nil => rfl
  | cons byte before ih =>
      simp only [List.cons_append, Text.partsBy, ih]
      split
      · rfl
      · cases parts : Text.partsBy (· = 10) before with
        | nil => exact absurd parts (parts_ne_nil before)
        | cons part parts => rfl

theorem parts_of_notMem {bytes : List UInt8} (oneLine : 10 ∉ bytes) :
    Text.partsBy (· = 10) bytes = [bytes] := by
  induction bytes with
  | nil => rfl
  | cons byte bytes ih =>
      obtain ⟨other, others⟩ := List.ne_and_not_mem_of_not_mem_cons oneLine
      rw [Text.partsBy, ih others]
      simp [other.symm]

theorem fileLines_append :
    fileLines (before ++ 10 :: after) = Text.partsBy (· = 10) before ++ fileLines after := by
  have some := parts_ne_nil after
  simp only [fileLines, parts_append, List.getLast?_append_of_ne_nil _ some,
    List.dropLast_append_of_ne_nil some]
  split <;> rfl

end

/-- A file with blank lines put into it: before its first line, between two lines or at its end. -/
inductive PaddedFile (bytes : List UInt8) : List UInt8 → Prop
  | same : PaddedFile bytes bytes
  | first {padded blank} : PaddedFile bytes padded → BlankLine blank → 10 ∉ blank →
      PaddedFile bytes (blank ++ 10 :: padded)
  | between {before after blank} : PaddedFile bytes (before ++ 10 :: after) →
      BlankLine blank → 10 ∉ blank → PaddedFile bytes (before ++ 10 :: (blank ++ 10 :: after))
  | last {padded blank} : PaddedFile bytes padded → BlankLine blank → 10 ∉ blank →
      PaddedFile bytes (padded ++ 10 :: blank)

theorem blankLine_nil : BlankLine [] := ⟨[], rfl, rfl⟩

/-- A line more at the end is all that a line end there can make. -/
theorem parts_eq_fileLines (bytes : List UInt8) :
    ∃ more, Text.partsBy (· = 10) bytes = fileLines bytes ++ more ∧ ∀ line ∈ more, line = [] := by
  simp only [fileLines]
  split
  · next ends =>
      refine ⟨[[]], ?_, by simp⟩
      obtain ⟨front, same⟩ := List.getLast?_eq_some_iff.mp ends
      rw [same, List.dropLast_concat]
  · exact ⟨[], by simp, by simp⟩

theorem PaddedFile.lines {bytes padded : List UInt8} (padding : PaddedFile bytes padded) :
    PaddedLines (fileLines bytes) (fileLines padded) := by
  induction padding with
  | same => exact .refl _
  | first _ blank oneLine ih =>
      rw [fileLines_append, parts_of_notMem oneLine]
      exact .insert blank ih
  | between _ blank oneLine ih =>
      refine ih.trans ?_
      rw [fileLines_append, fileLines_append, fileLines_append, parts_of_notMem oneLine]
      exact (PaddedLines.refl _).append (.insert blank (.refl _))
  | @last padded blank _ isBlank oneLine ih =>
      obtain ⟨more, parts, empty⟩ := parts_eq_fileLines padded
      have blanks : ∀ line ∈ more ++ fileLines blank, BlankLine line := by
        intro line member
        rcases List.mem_append.mp member with atEnd | added
        · rw [empty line atEnd]
          exact blankLine_nil
        · simp only [fileLines, parts_of_notMem oneLine] at added
          split at added
          · cases added
          · rw [List.mem_singleton.mp added]
            exact isBlank
      rw [fileLines_append, parts, List.append_assoc]
      simpa using ih.append (PaddedLines.blanks blanks)

/-! ## Limits -/

/-- Two results that differ in the number of a line at most. -/
inductive SameButLine : Except PromptError (List String) → Except PromptError (List String) → Prop
  | ok (prompts : List String) : SameButLine (.ok prompts) (.ok prompts)
  | error (error : PromptError) (line : Nat) :
      SameButLine (.error error) (.error (error.atLine line))

theorem readPrompts_padded {bytes padded : List UInt8} (padding : PaddedFile bytes padded)
    (limit : Option Nat) : SameButLine (readPrompts limit bytes) (readPrompts limit padded) := by
  rcases hold_or_fault (fileLines bytes) with ⟨prompts, held⟩ | ⟨before, prompts, error, first⟩
  · rw [readPrompts_of_hold limit held, readPrompts_of_hold limit (padding.lines.hold held)]
    exact .ok _
  · obtain ⟨front, again⟩ := padding.lines.firstFault first
    rw [readPrompts_of_fault limit first, readPrompts_of_fault limit again]
    split
    · exact .ok _
    · exact .error error _

theorem firstFault_of_error {limit : Option Nat} {bytes : List UInt8} {error : PromptError}
    (failed : readPrompts limit bytes = .error error) :
    ∃ before prompts, FirstFault (fileLines bytes) before prompts error := by
  rcases hold_or_fault (fileLines bytes) with ⟨prompts, held⟩ | ⟨before, prompts, other, first⟩
  · rw [readPrompts_of_hold limit held] at failed
    cases failed
  · rw [readPrompts_of_fault limit first] at failed
    split at failed
    · cases failed
    · obtain rfl := Except.error.inj failed
      exact ⟨before, prompts, first⟩

/-- Two prompts with a blank line between them. -/
def twoPrompts : List UInt8 :=
  Utf8.encode "\x7B\"prompt\": \"a\"\x7D\n\n\x7B\"text\": \"b\"\x7D\n".toList

end InferenceBench
