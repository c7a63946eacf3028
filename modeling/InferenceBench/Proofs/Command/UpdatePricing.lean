import InferenceBench.Command.UpdatePricing
import InferenceBench.Proofs.Command.Disk
import InferenceBench.Proofs.Pricing.Agreement
import InferenceBench.Proofs.Text.Utf8

/-! # Updating a page again

A run that gets as far as the repriced page has found all that it needs in two files, and only a
run that got so far writes. Once the model is matched with a key, the page is repriced. On the page
that it leaves, a later run finds the same key and the page that it is about to write, so it writes
nothing.

A run that fails before it writes leaves the page alone. There are two ways to fail later: the page
cannot be written, and holds what the attempt has left, or it is written, and the console does not
take the report.
-/

namespace InferenceBench.Command.UpdatePricing

open Json Pricing

/-- A run of the program on a disk. -/
def perform (command : UpdatePricing) (others : System (Breakable Disk)) (disk : Disk) :
    Except Halt Verdict × Disk :=
  Program.outcome (command.run (Disk.system others)) disk

/-- What a run reads: the results, and the page. -/
structure Reads (command : UpdatePricing) (disk : Disk) (results : Value) (page : List Char) :
    Prop where
  loaded : readDocument command.results (disk.files command.results) = .ok results
  shown : (disk.files command.page).bind Utf8.decode? = some page

/-- What a run finds out before it finishes. -/
structure Finds (results : Value) (page : List Char) (prices : Prices) (key updated : List Char) :
    Prop where
  priced : Prices.ofResults results = .ok prices
  matched : findKey? (servedModel results) page = some key
  repriced : reprice? key prices page = some updated

def matchedText (key : List Char) : List Char := "  Matched model key: ".toList ++ key ++ ['\n']

/-- What a run prints before it finishes. -/
def foundText (command : UpdatePricing) (results : Value) (prices : Prices) (key : List Char) :
    List Char :=
  command.pricesText (servedModel results) prices ++ matchedText key

/-- The console takes what a run prints before it finishes. -/
structure Tells (command : UpdatePricing) (disk : Disk) (results : Value) (prices : Prices)
    (key : List Char) : Prop where
  found : disk.console disk.printed (command.pricesText (servedModel results) prices) = true
  matched : disk.console (disk.printed ++ command.pricesText (servedModel results) prices)
    (matchedText key) = true

/-- Why a run stops before the page is repriced. -/
inductive Stops (command : UpdatePricing) (disk : Disk) : Halt → Prop
  | unloaded {error} :
      readDocument command.results (disk.files command.results) = .error error →
      Stops command disk (.stopped error.message)
  | unpriced {results error} : Prices.ofResults results = .error error →
      Stops command disk (.stopped error.message)
  | missing : (disk.files command.page).bind Utf8.decode? = none →
      Stops command disk (.stopped (PageError.missing command.page).message)
  | unmatched {model page} : findKey? model page = none →
      Stops command disk (.stopped (PageError.noEntry model command.page).message)
  | untold {printed text} : disk.console printed text = false → Stops command disk .brokenOff

def upToDateText : List Char := "No changes made (pricing already up to date)".toList ++ ['\n']

section Run

variable {command : UpdatePricing} {disk : Disk} {results : Value} {page updated key : List Char}
  {prices : Prices} (others : System (Breakable Disk))

theorem Tells.of_prints (prints : disk.Prints) : command.Tells disk results prices key :=
  ⟨prints _ _, prints _ _⟩

/-! ## The way to the repriced page -/

theorem perform_of_priced
    (loaded : readDocument command.results (disk.files command.results) = .ok results)
    (priced : Prices.ofResults results = .ok prices) :
    command.perform others disk = Program.outcome (do
      (Disk.system others).say (command.pricesText (servedModel results) prices)
      command.revise (Disk.system others) (servedModel results) prices) disk := by
  rw [perform, run, Program.outcome_bind_ok (Disk.run_load others disk loaded), priced]
  rfl

theorem revise_missing (disk : Disk) {model : List Char}
    (missing : (disk.files command.page).bind Utf8.decode? = none) :
    Program.outcome (command.revise (Disk.system others) model prices) disk =
      (.error (.stopped (PageError.missing command.page).message), disk) := by
  rw [revise, Program.outcome_bind_ok (Disk.run_read others disk command.page), missing]
  rfl

theorem revise_of_shown (disk : Disk) {model : List Char}
    (shown : (disk.files command.page).bind Utf8.decode? = some page) :
    Program.outcome (command.revise (Disk.system others) model prices) disk =
      Program.outcome (match findKey? model page with
        | none => throw (PageError.noEntry model command.page).message
        | some key => do
          (Disk.system others).sayLine ("  Matched model key: ".toList ++ key)
          match reprice? key prices page with
            | none => throw (PageError.lostEntry key).message
            | some updated => command.finish (Disk.system others) key page updated) disk := by
  rw [revise, Program.outcome_bind_ok (Disk.run_read others disk command.page), shown]
  rfl

theorem perform_of_finds (reads : command.Reads disk results page)
    (finds : Finds results page prices key updated)
    (tells : command.Tells disk results prices key) :
    command.perform others disk =
      Program.outcome (command.finish (Disk.system others) key page updated)
        (disk.withPrinted (command.foundText results prices key)) := by
  let told := disk.withPrinted (command.pricesText (servedModel results) prices)
  have matched : Program.outcome ((Disk.system others).sayLine
      ("  Matched model key: ".toList ++ key)) told =
        (.ok (), told.withPrinted (matchedText key)) :=
    Disk.run_sayLine others told tells.matched
  rw [perform_of_priced others reads.loaded finds.priced,
    Program.outcome_bind_ok (Disk.run_say others disk tells.found),
    revise_of_shown others told reads.shown, finds.matched]
  dsimp only
  rw [Program.outcome_bind_ok matched, finds.repriced, Disk.withPrinted_withPrinted, foundText]

/-- A run that does not get as far as the repriced page fails and writes nothing. -/
theorem perform_cases (command : UpdatePricing) (disk : Disk) :
    (∃ results page prices key updated, command.Reads disk results page ∧
      Finds results page prices key updated ∧ command.Tells disk results prices key) ∨
    ∃ halt left, command.Stops disk halt ∧
      command.perform others disk = (.error halt, left) ∧ left.files = disk.files := by
  cases loaded : readDocument command.results (disk.files command.results) with
  | error error =>
      refine .inr ⟨_, disk, .unloaded loaded, ?_, rfl⟩
      rw [perform, run, Program.outcome_bind_error (Disk.run_load_failed others disk loaded)]
  | ok results =>
  cases priced : Prices.ofResults results with
  | error error =>
      refine .inr ⟨_, disk, .unpriced priced, ?_, rfl⟩
      rw [perform, run, Program.outcome_bind_ok (Disk.run_load others disk loaded), priced]
      rfl
  | ok prices =>
  have begins := perform_of_priced others loaded priced
  let told := disk.withPrinted (command.pricesText (servedModel results) prices)
  cases found : disk.console disk.printed (command.pricesText (servedModel results) prices) with
  | false =>
      refine .inr ⟨_, disk, .untold found, ?_, rfl⟩
      rw [begins, Program.outcome_bind_error (Disk.run_say_refused others disk found)]
  | true =>
  rw [Program.outcome_bind_ok (Disk.run_say others disk found)] at begins
  cases shown : (disk.files command.page).bind Utf8.decode? with
  | none =>
      refine .inr ⟨_, told, .missing shown, ?_, rfl⟩
      rw [begins, revise_missing others told shown]
  | some page =>
  rw [revise_of_shown others told shown] at begins
  cases matched : findKey? (servedModel results) page with
  | none =>
      refine .inr ⟨_, told, .unmatched matched, ?_, rfl⟩
      rw [begins, matched]
      rfl
  | some key =>
  cases keyTold : disk.console
      (disk.printed ++ command.pricesText (servedModel results) prices) (matchedText key) with
  | false =>
      refine .inr ⟨_, told, .untold keyTold, ?_, rfl⟩
      rw [begins, matched]
      exact Program.outcome_bind_error (Disk.run_sayLine_refused others told keyTold)
  | true =>
  obtain ⟨updated, repriced⟩ := Option.isSome_iff_exists.mp
    ((reprice?_isSome prices).mpr (exists_entry_of_findKey? matched))
  exact .inl ⟨results, page, prices, key, updated, ⟨loaded, shown⟩, ⟨priced, matched, repriced⟩,
    ⟨found, keyTold⟩⟩

/-! ## Finishing -/

theorem finish_same : command.finish (Disk.system others) key page page = (do
    (Disk.system others).sayLine "No changes made (pricing already up to date)".toList
    pure .success) := by
  rw [finish, if_pos rfl]

theorem outcome_finish_same (prints : disk.Prints) :
    Program.outcome (command.finish (Disk.system others) key page page) disk =
      (.ok .success, disk.withPrinted upToDateText) := by
  rw [finish_same, Program.outcome_bind_ok (Disk.run_sayLine others disk (prints _ _))]
  rfl

/-- How a run finishes that has found the repriced page: with nothing to write, or by writing it. -/
inductive Finishes (command : UpdatePricing) (disk : Disk) (page updated : List Char)
    (outcome : Except Halt Verdict × Disk) : Prop
  | idle : updated = page ∨ command.dryRun = true → disk.Reports .success outcome →
      Finishes command disk page updated outcome
  | writing : updated ≠ page → command.dryRun = false →
      disk.Saves command.page updated .success outcome →
      Finishes command disk page updated outcome

theorem finish_finishes (command : UpdatePricing) (disk : Disk) (key page updated : List Char) :
    command.Finishes disk page updated
      (Program.outcome (command.finish (Disk.system others) key page updated) disk) := by
  by_cases same : updated = page
  · rw [same, finish_same]
    exact .idle (.inl rfl) (.sayLine others (.told rfl))
  rw [finish, if_neg same]
  cases dry : command.dryRun with
  | true =>
      rw [if_pos rfl]
      refine .idle (.inr dry) (.sayLine others ?_)
      cases modelText? key updated with
      | none => exact .told rfl
      | some text => exact .sayLine others (.told rfl)
  | false =>
      rw [if_neg (by decide)]
      exact .writing same dry (.save others (.sayLine others (.told rfl)))

theorem Finishes.of_withPrinted {printed : List Char} {outcome : Except Halt Verdict × Disk}
    (finishes : command.Finishes (disk.withPrinted printed) page updated outcome) :
    command.Finishes disk page updated outcome := by
  cases finishes with
  | idle reason reports => exact .idle reason reports.of_withPrinted
  | writing changed wet saves => exact .writing changed wet saves.of_withPrinted

/-! ## Runs -/

/-- How a run ends: it stops before the page is repriced, or it finishes. -/
inductive Ends (command : UpdatePricing) (disk : Disk) : Except Halt Verdict × Disk → Prop
  | early {halt left} : command.Stops disk halt → left.files = disk.files →
      Ends command disk (.error halt, left)
  | late {results page prices key updated outcome} : command.Reads disk results page →
      Finds results page prices key updated → command.Finishes disk page updated outcome →
      Ends command disk outcome

theorem perform_ends (command : UpdatePricing) (disk : Disk) :
    command.Ends disk (command.perform others disk) := by
  obtain ⟨results, page, prices, key, updated, reads, finds, tells⟩ |
    ⟨halt, left, stops, failed, same⟩ := perform_cases others command disk
  · rw [perform_of_finds others reads finds tells]
    exact .late reads finds (finish_finishes others command _ key page updated).of_withPrinted
  · rw [failed]
    exact .early stops same

/-- A run that is about to write the page with other prices. -/
structure Writes (command : UpdatePricing) (disk : Disk) (updated : List Char) : Prop where
  found : ∃ results page prices key, command.Reads disk results page ∧
    Finds results page prices key updated ∧ updated ≠ page
  wet : command.dryRun = false

theorem Reads.unique {others : Value} {other : List Char}
    (reads : command.Reads disk results page) (found : command.Reads disk others other) :
    others = results ∧ other = page :=
  ⟨Except.ok.inj (found.loaded.symm.trans reads.loaded),
    Option.some.inj (found.shown.symm.trans reads.shown)⟩

theorem Finds.updated_eq {others : Prices} {other again : List Char}
    (finds : Finds results page prices key updated)
    (found : Finds results page others other again) : again = updated := by
  obtain rfl : prices = others := Except.ok.inj (finds.priced.symm.trans found.priced)
  obtain rfl : key = other := Option.some.inj (finds.matched.symm.trans found.matched)
  exact Option.some.inj (found.repriced.symm.trans finds.repriced)

namespace Ends

variable {outcome : Except Halt Verdict × Disk}

theorem files_of_dryRun (ends : command.Ends disk outcome) (dry : command.dryRun = true) :
    outcome.2.files = disk.files := by
  cases ends with
  | early _ same => exact same
  | late _ _ finishes =>
      cases finishes with
      | idle _ reports => exact reports.files
      | writing _ wet => simp [dry] at wet

theorem files_of_failed (ends : command.Ends disk outcome) {halt : Halt}
    (failed : outcome.1 = .error halt) :
    outcome.2.files = disk.files ∨ ∃ updated, command.Writes disk updated ∧
      disk.FailsLate command.page updated halt outcome.2.files := by
  cases ends with
  | early _ same => exact .inl same
  | late reads finds finishes =>
      cases finishes with
      | idle _ reports => exact .inl reports.files
      | writing changed wet saves =>
          exact .inr ⟨_, ⟨⟨_, _, _, _, reads, finds, changed⟩, wet⟩, saves.failsLate failed⟩

/-- A run that succeeds, and is not a dry run, leaves the repriced page. -/
theorem page_of_ok (ends : command.Ends disk outcome) (reads : command.Reads disk results page)
    (wet : command.dryRun = false) {verdict : Verdict} (succeeded : outcome.1 = .ok verdict) :
    ∃ prices key updated, Finds results page prices key updated ∧
      (outcome.2.files command.page).bind Utf8.decode? = some updated := by
  cases ends with
  | early => cases succeeded
  | late found finds finishes =>
      obtain ⟨rfl, rfl⟩ := reads.unique found
      refine ⟨_, _, _, finds, ?_⟩
      cases finishes with
      | idle reason reports =>
          obtain rfl := reason.resolve_right (by simp [wet])
          rw [reports.files]
          exact reads.shown
      | writing _ _ saves =>
          rw [saves.files_of_ok succeeded, Function.update_self, Option.bind_some,
            Utf8.decode?_encode]

theorem files_of_same (ends : command.Ends disk outcome) (reads : command.Reads disk results page)
    (finds : Finds results page prices key page) : outcome.2.files = disk.files := by
  cases ends with
  | early _ same => exact same
  | late readsAgain findsAgain finishes =>
      obtain ⟨rfl, rfl⟩ := reads.unique readsAgain
      cases finishes with
      | idle _ reports => exact reports.files
      | writing changed => exact absurd (finds.updated_eq findsAgain) changed

end Ends

/-- On the repriced page, the same key is found, and the page stays the same. -/
theorem Finds.again (finds : Finds results page prices key updated) (plain : UnpricedKeys page)
    (plainName : Unpriced (servedModel results)) : Finds results updated prices key updated where
  priced := finds.priced
  matched := by
    rw [plain.findKey?_eq plainName (reprinted_reprice finds.repriced)]
    exact finds.matched
  repriced := reprice?_again finds.repriced

end Run

/-- Results with a negative price. -/
def refunds : Value :=
  .object [("decode", .object [("cost_per_million_tokens", .number (.natural 2))]),
    ("model", .text "m"),
    ("prefill", .object [("cost_per_million_tokens", .number (.negative 1))])]

def refundsText : List Char :=
  "\x7B\"model\": \"m\", \"prefill\": \x7B\"cost_per_million_tokens\": -1\x7D, ".toList ++
    "\"decode\": \x7B\"cost_per_million_tokens\": 2\x7D\x7D".toList

def chargedPage : List Char :=
  "\"k\": \x7BbackendName: \"m\", inputPricePerM: 1, outputPricePerM: 1\x7D".toList

def refundedPage : List Char :=
  "\"k\": \x7BbackendName: \"m\", inputPricePerM: -1.00, outputPricePerM: 2.00\x7D".toList

def refundsDisk : Disk := .ofFiles fun path =>
  if path = "results" then some (Utf8.encode refundsText)
  else if path = "page" then some (Utf8.encode chargedPage)
  else none

def refundsCommand : UpdatePricing := ⟨"results", "page", false⟩

theorem refunds_reads {disk : Disk} {page : List Char}
    (results : disk.files refundsCommand.results = some (Utf8.encode refundsText))
    (shown : (disk.files refundsCommand.page).bind Utf8.decode? = some page) :
    refundsCommand.Reads disk refunds page := by
  refine ⟨?_, shown⟩
  rw [results]
  decide +kernel

def refundedDisk : Disk := .ofFiles (refundsCommand.perform Disk.idle refundsDisk).2.files

def stuckPage : Disk := refundsDisk.stuck "page" (refundsDisk.files "page")

/-- An attempt may leave the page empty. -/
example : (refundsCommand.perform Disk.idle (refundsDisk.stuck "page" (some []))).2.files "page" =
    some [] := by decide +kernel

end InferenceBench.Command.UpdatePricing
