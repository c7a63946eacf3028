import InferenceBench.Command.CompareBaseline
import InferenceBench.Proofs.Baseline.Refusal
import InferenceBench.Proofs.Command.Disk

/-! # Updates that fail

A run that is to update the baseline reads its documents, makes the update and then saves it. Apart
from the saving, all that can go wrong goes wrong before the file is written, so a run that fails
then leaves the disk as it was, whatever the update had done to the document by then. There are two
ways to fail later: the file cannot be written, and holds what the attempt has left, or it is
written, and the console does not take the report.
-/

namespace InferenceBench.Command.CompareBaseline

open Json

/-- A run of the program on a disk. The operations that the disk does not carry out are arbitrary,
but the calendar stands still. -/
def perform (command : CompareBaseline) (now : Instant) (others : System (Breakable Disk))
    (disk : Disk) : Except Halt Verdict × Disk :=
  Program.outcome (command.run (Disk.system (Disk.stoppedAt now others))) disk

/-- The mappings of a run: the standard ones, or those that a file lists. -/
def mappingsOn (disk : Disk) : Option String → Except MappingError (List MetricMapping)
  | none => .ok MetricMapping.standard
  | some path => readMappings path (disk.files path)

/-- What a run reads. -/
structure Reads (command : CompareBaseline) (disk : Disk) (mappings : List MetricMapping)
    (results baseline : Value) : Prop where
  mapped : mappingsOn disk command.mapping = .ok mappings
  loaded : readDocument command.results (disk.files command.results) = .ok results
  held : readDocument command.baseline (disk.files command.baseline) = .ok baseline

/-- A run that is about to write an updated baseline. -/
def Writes (command : CompareBaseline) (now : Instant) (disk : Disk) (updated : Value) : Prop :=
  ∃ mappings results baseline, command.Reads disk mappings results baseline ∧
    updateBaseline baseline results mappings command.runId now = (updated, none)

section Run

variable {command : CompareBaseline} {disk : Disk} {mappings : List MetricMapping}
  {results baseline : Value} {now : Instant} (others : System (Breakable Disk))

theorem perform_of_mapped (updating : command.update = true)
    (mapped : mappingsOn disk command.mapping = .ok mappings) :
    command.perform now others disk = Program.outcome (do
      let results ← (Disk.system (Disk.stoppedAt now others)).load command.results
      let baseline ← (Disk.system (Disk.stoppedAt now others)).load command.baseline
      command.runUpdate (Disk.system (Disk.stoppedAt now others)) results baseline mappings)
      disk := by
  cases source : command.mapping with
  | none =>
      rw [source, mappingsOn] at mapped
      obtain rfl := Except.ok.inj mapped
      simp [perform, run, source, updating]
  | some path =>
      rw [source, mappingsOn] at mapped
      simp [perform, run, source, updating, mapped, Except.mapError]

theorem perform_cases (command : CompareBaseline) (disk : Disk) (now : Instant)
    (updating : command.update = true) :
    (∃ mappings results baseline, command.Reads disk mappings results baseline) ∨
      ∃ message, command.perform now others disk = (.error (.stopped message), disk) := by
  cases mapped : mappingsOn disk command.mapping with
  | error error =>
      cases source : command.mapping with
      | none => simp [mappingsOn, source] at mapped
      | some path =>
          rw [source, mappingsOn] at mapped
          exact .inr ⟨error.message, by simp [perform, run, source, mapped, Except.mapError]⟩
  | ok mappings =>
  have begins : command.perform now others disk = _ := perform_of_mapped others updating mapped
  cases loaded : readDocument command.results (disk.files command.results) with
  | error error =>
      refine .inr ⟨error.message, ?_⟩
      rw [begins, Program.outcome_bind_error (Disk.run_load_failed _ disk loaded)]
  | ok results =>
  rw [Program.outcome_bind_ok (Disk.run_load _ disk loaded)] at begins
  cases held : readDocument command.baseline (disk.files command.baseline) with
  | error error =>
      refine .inr ⟨error.message, ?_⟩
      rw [begins, Program.outcome_bind_error (Disk.run_load_failed _ disk held)]
  | ok baseline => exact .inl ⟨mappings, results, baseline, mapped, loaded, held⟩

theorem perform_of_reads (updating : command.update = true)
    (reads : command.Reads disk mappings results baseline) :
    command.perform now others disk =
      Program.outcome (command.runUpdate (Disk.system (Disk.stoppedAt now others)) results
        baseline mappings) disk := by
  rw [perform_of_mapped others updating reads.mapped,
    Program.outcome_bind_ok (Disk.run_load _ disk reads.loaded),
    Program.outcome_bind_ok (Disk.run_load _ disk reads.held)]

/-! ## The update -/

theorem runUpdate_refused {left : Value} {error : BaselineError}
    (refused : updateBaseline baseline results mappings command.runId now = (left, some error)) :
    Program.outcome (command.runUpdate (Disk.system (Disk.stoppedAt now others)) results baseline
      mappings) disk = (.error (.stopped error.message), disk) := by
  simp [runUpdate, refused]

theorem runUpdate_saves {updated : Value}
    (updates : updateBaseline baseline results mappings command.runId now = (updated, none)) :
    disk.Saves command.baseline updated.document .success
      (Program.outcome (command.runUpdate (Disk.system (Disk.stoppedAt now others)) results
        baseline mappings) disk) := by
  rw [runUpdate, Program.outcome_bind_ok (Program.outcome_lift _ _), updates]
  exact .save _ (.sayLine _ (.say _ (.told rfl)))

/-- A run that fails leaves the disk as it was, unless it fails late. -/
theorem perform_failed (command : CompareBaseline) (disk : Disk) (now : Instant)
    (updating : command.update = true) {halt : Halt}
    (failed : (command.perform now others disk).1 = .error halt) :
    (command.perform now others disk).2 = disk ∨
      ∃ updated, command.Writes now disk updated ∧
        disk.FailsLate command.baseline updated.document halt
          (command.perform now others disk).2.files := by
  obtain ⟨mappings, results, baseline, reads⟩ | ⟨_, stopped⟩ :=
    perform_cases others command disk now updating
  · rw [perform_of_reads others updating reads] at failed ⊢
    cases update : updateBaseline baseline results mappings command.runId now with
    | mk updated error =>
        cases error with
        | some error => exact .inl (by rw [runUpdate_refused others update])
        | none =>
            exact .inr ⟨updated, ⟨mappings, results, baseline, reads, update⟩,
              (runUpdate_saves others update).failsLate failed⟩
  · exact .inl (by rw [stopped])

end Run

/-- A baseline whose throughput is no object, and results with a rate for it. -/
def unratedBaseline : Value :=
  .object [("accuracy", .object []), ("performance", .null)]

def ratedResults : Value :=
  .object [("a", .number (.natural 7)),
    ("prefill", .object [("tokens_per_second", .number (.natural 9))])]

def begunBaseline : Value :=
  .object
    [("accuracy", .object [("ifeval", .object [("num_samples", .number (.natural 0)),
        ("x", .number (.natural 7))])]),
      ("last_updated", .text "1970-01-01T00:00:00.000000Z"), ("performance", .null),
      ("run_id", .text "7")]

def unratedText : List Char :=
  "\x7B\"accuracy\": \x7B\x7D, \"performance\": null\x7D".toList

def ratedText : List Char :=
  "\x7B\"prefill\": \x7B\"tokens_per_second\": 9\x7D, \"a\": 7\x7D".toList

def mappingText : List Char :=
  "[\x7B\"result_key\": \"a\", \"baseline_key\": \"x\", \"name\": \"A\"\x7D]".toList

def unratedDisk : Disk := .ofFiles fun path =>
  if path = "baseline" then some (Utf8.encode unratedText)
  else if path = "results" then some (Utf8.encode ratedText)
  else if path = "mapping" then some (Utf8.encode mappingText)
  else none

def unratedCommand : CompareBaseline :=
  ⟨"results", "baseline", some "mapping", 5, true, some "7", "comparison"⟩

theorem unrated_reads :
    unratedCommand.Reads unratedDisk [⟨"a", "x", "A", none⟩] ratedResults unratedBaseline where
  mapped := by decide +kernel
  loaded := by decide +kernel
  held := by decide +kernel

/-- The baseline is an empty object, and cannot be written. -/
def stuckBaseline : Disk :=
  let empty : Disk := .ofFiles (Function.update unratedDisk.files "baseline"
    (some (Utf8.encode "\x7B\x7D".toList)))
  empty.stuck "baseline" (empty.files "baseline")

end InferenceBench.Command.CompareBaseline
