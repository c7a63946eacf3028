import InferenceBench.Proofs.Text.BrokenParts
import InferenceBench.Server.Attempt

/-! # The body of a failure

The error of an answer without success keeps the start of the body, cut between two characters: a
broken part counts as one character, and what is beyond the cut does not matter.
-/

namespace InferenceBench.AttemptError

/-- Of a text, the error of a status keeps the first 200 characters. Of any body it keeps the first
200 parts into which the body can be taken apart, with U+FFFD for each broken one. A text that is
long enough is kept alike whatever bytes follow it. -/
theorem keeps_first_characters (status : Nat) (text : List Char) (body rest : List UInt8) :
    ofStatus status (Utf8.encode text) = .status status (text.take 200) ∧
    (∃ parts, Utf8.Reads body parts ∧ (∀ others, Utf8.Reads body others → others = parts) ∧
      ∃ kept, ofStatus status body = .status status kept ∧ kept.length ≤ 200 ∧
        kept = (parts.map (·.getD '\uFFFD')).take 200) ∧
    (200 ≤ text.length →
      ofStatus status (Utf8.encode text ++ rest) = ofStatus status (Utf8.encode text)) := by
  have whole : ofStatus status (Utf8.encode text) = .status status (text.take 200) := by
    rw [ofStatus, Utf8.decodeLossy_encode, keptBodyLength]
  refine ⟨whole, ?_, fun long => ?_⟩
  · refine ⟨Utf8.symbols body, Utf8.reads_iff.mpr rfl, fun others => Utf8.reads_iff.mp, ?_⟩
    exact ⟨_, rfl, List.length_take_le _ _, rfl⟩
  · rw [whole, ofStatus, Utf8.decodeLossy_encode_append, keptBodyLength,
      List.take_append_of_le_length long]

/-- The last character that is kept has four bytes, and another one breaks off right behind it. -/
theorem keeps_first_characters_breakingOff :
    let text := List.replicate 199 'é' ++ ['😀']
    200 ≤ text.length ∧
      ofStatus 503 (Utf8.encode text ++ [0xF0, 0x9F]) = .status 503 text := by
  intro text
  have length : text.length = 200 := by
    simp only [text, List.length_append, List.length_replicate, List.length_singleton]
  have kept : text.take 200 = text := List.take_of_length_le (Nat.le_of_eq length)
  obtain ⟨whole, -, alike⟩ := keeps_first_characters 503 text [] [0xF0, 0x9F]
  rw [kept] at whole
  exact ⟨Nat.le_of_eq length.symm, (alike (Nat.le_of_eq length.symm)).trans whole⟩

end InferenceBench.AttemptError
