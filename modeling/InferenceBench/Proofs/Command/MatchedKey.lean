import InferenceBench.Proofs.Command.UpdatePricing
import InferenceBench.Proofs.Pricing.Results

/-! # A matched key is not lost

The program looks for the key of a model first, and then for the entry of that key. The second
search finds something whenever the first one does, so the program never reports that the entry
is gone: each message with which a run can end begins in another way.
-/

namespace InferenceBench.Command.UpdatePricing

open Json Pricing

/-! ## Messages -/

theorem head_lostEntry (key : List Char) :
    (PageError.lostEntry key).message.toList.head? = some 'm' := by
  unfold PageError.message
  rw [String.toList_ofList]
  rfl

theorem head_append_ne {text : List Char} {c : Char} (other : text.head?.any (· ≠ c) = true)
    (more : List Char) : (text ++ more).head? ≠ some c := by
  cases text with
  | nil => simp at other
  | cons d text => simpa using other

theorem head_pricesError {workload : String} {error : PricesError} (about : error.About workload)
    (known : workload ∈ ["prefill", "decode", "cached"]) :
    error.message.toList.head? ≠ some 'm' := by
  have named : ∀ workload ∈ ["prefill", "decode", "cached"],
      workload.toList.head?.any (· ≠ 'm') = true := by decide
  unfold PricesError.message
  cases about with
  | missing =>
      dsimp only
      rw [String.append_assoc, String.toList_append]
      exact head_append_ne (by decide) _
  | notANumber =>
      dsimp only
      rw [String.toList_append]
      exact head_append_ne (named workload known) _

/-- No reason to stop before the page is repriced is given in words that begin like those for a
lost entry. -/
theorem Stops.head_ne {command : UpdatePricing} {disk : Disk} {message : String}
    (stops : command.Stops disk (.stopped message)) : message.toList.head? ≠ some 'm' := by
  cases stops with
  | @unloaded error _ =>
      unfold DocumentError.message
      cases error with
      | unreadable path | invalid path =>
          dsimp only
          rw [String.toList_append]
          exact head_append_ne (by decide) _
  | unpriced priced =>
      obtain ⟨workload, known, about⟩ := ofResults_error priced
      exact head_pricesError about known
  | missing =>
      unfold PageError.message
      dsimp only
      rw [String.toList_ofList]
      exact head_append_ne (by decide) _
  | unmatched =>
      unfold PageError.message
      dsimp only
      rw [String.toList_ofList, List.append_assoc, List.append_assoc]
      exact head_append_ne (by decide) _

theorem Finishes.head_ne {command : UpdatePricing} {disk : Disk} {page updated : List Char}
    {outcome : Except Halt Verdict × Disk} (finishes : command.Finishes disk page updated outcome)
    {message : String} (stopped : outcome.1 = .error (.stopped message)) :
    message.toList.head? ≠ some 'm' := by
  cases finishes with
  | idle _ reports => cases reports <;> cases stopped
  | writing _ _ saves =>
      cases saves with
      | unwritten =>
          cases stopped
          rw [String.toList_append]
          exact head_append_ne (by decide) _
      | written _ reports => cases reports <;> cases stopped

/-! ## Runs -/

theorem perform_ne_lostEntry (command : UpdatePricing) (others : System (Breakable Disk))
    (disk : Disk) (key : List Char) :
    (command.perform others disk).1 ≠ .error (.stopped (PageError.lostEntry key).message) := by
  intro lost
  have ends := perform_ends others command disk
  generalize command.perform others disk = outcome at ends lost
  cases ends with
  | early stops =>
      obtain rfl := Except.error.inj lost
      exact stops.head_ne (head_lostEntry key)
  | late _ _ finishes => exact finishes.head_ne lost (head_lostEntry key)

/-- The text of a key, the page with other prices and the entries agree on whether a page has the
key, and a key that a name means is one that it has, so no run loses it. The text of a key is the
same in a repriced page, and at the same place, but for the block, which is the repriced one. -/
theorem lookups_agree (key page : List Char) (prices : Prices) :
    ((modelText? key page).isSome ↔ ∃ entry ∈ entries page, entry.key = key) ∧
    ((reprice? key prices page).isSome ↔ ∃ entry ∈ entries page, entry.key = key) ∧
    (∀ name, findKey? name page = some key → ∃ entry ∈ entries page, entry.key = key) ∧
    (∀ (command : UpdatePricing) others disk,
      (command.perform others disk).1 ≠ .error (.stopped (PageError.lostEntry key).message)) ∧
    ∀ updated, reprice? key prices page = some updated →
      ∃ start blanks entry again, TextAt page key start blanks entry ∧
        TextAt updated key start blanks again ∧ again.block = prices.applyTo entry.block ∧
        again.after = entry.after :=
  ⟨modelText?_isSome, reprice?_isSome prices, fun _ => exists_entry_of_findKey?,
    fun command others disk => perform_ne_lostEntry command others disk key,
    fun _ => textAt_reprice⟩

/-- A page that has the key in quotes before its table as well. No block declares a name. -/
def quotedTwice : List Char :=
  "\"qwen\" const MODELS = \x7B\"qwen\": \x7BinputPricePerM: 1\x7D\x7D;".toList

theorem lookups_agree_quotedTwice :
    findKey? "org/Qwen".toList quotedTwice = some "qwen".toList ∧
    (modelText? "qwen".toList quotedTwice).isSome ∧
    ∃ updated start blanks entry again,
      reprice? "qwen".toList ⟨3, 4, none⟩ quotedTwice = some updated ∧
      TextAt quotedTwice "qwen".toList start blanks entry ∧
      TextAt updated "qwen".toList start blanks again := by
  have matched : findKey? "org/Qwen".toList quotedTwice = some "qwen".toList := by decide +kernel
  obtain ⟨text, page, entry, -, place⟩ :=
    lookups_agree "qwen".toList quotedTwice ⟨3, 4, none⟩
  have found := entry "org/Qwen".toList matched
  obtain ⟨updated, repriced⟩ := Option.isSome_iff_exists.mp (page.mpr found)
  obtain ⟨start, blanks, entry, again, before, after, -, -⟩ := place updated repriced
  exact ⟨matched, text.mpr found, updated, start, blanks, entry, again, repriced, before, after⟩

end InferenceBench.Command.UpdatePricing
