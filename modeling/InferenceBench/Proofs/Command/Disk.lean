import InferenceBench.Command.System
import Mathlib.Logic.Function.Basic

/-! # Programs on a disk

The operations on files and on the console, carried out on a record of the files and of what has
been printed. What a program does there is computed step by step; the other operations of the
system are arbitrary.

A file that cannot be written need not stay as it was: an attempt empties the file first, and may
fail after that. A console need not take a text: its reader may have gone. Then the program breaks
off, wherever it is, and what it has written by then stays written.
-/

namespace InferenceBench.Command

/-- Steps on a state that may break off. What was done until then stays done. -/
abbrev Breakable (σ : Type) : Type → Type := OptionT (StateM σ)

/-- Why a program came to a halt before its work was done. -/
inductive Halt where
  | stopped (message : String)
  /-- One of its steps broke off, and the program with it. -/
  | brokenOff
  deriving Repr, DecidableEq

/-! ## Outcomes -/

section Outcomes

variable {σ α β : Type}

theorem Breakable.run_bind (action : Breakable σ α) (next : α → Breakable σ β) (state : σ) :
    (action >>= next).run state =
      match action.run state with
      | (some a, left) => (next a).run left
      | (none, left) => (none, left) := by
  rw [OptionT.run_bind]
  change (action.run state).1.elim (pure none) (fun a => (next a).run) (action.run state).2 = _
  rcases action.run state with ⟨_ | _, left⟩ <;> rfl

namespace Program

/-- How a program ends, and the state that it leaves. -/
def outcome (program : Program (Breakable σ) α) (state : σ) : Except Halt α × σ :=
  match program.run.run state with
  | (some result, left) => (result.mapError .stopped, left)
  | (none, left) => (.error .brokenOff, left)

variable (state : σ)

@[simp]
theorem outcome_pure (a : α) : outcome (pure a) state = (.ok a, state) := rfl

@[simp]
theorem outcome_throw (message : String) :
    outcome (throw message : Program (Breakable σ) α) state =
      (.error (.stopped message), state) := rfl

@[simp]
theorem outcome_lift (action : Breakable σ α) :
    outcome (liftM action) state =
      match action.run state with
      | (some a, left) => (.ok a, left)
      | (none, left) => (.error .brokenOff, left) := by
  have lifted : (liftM action : Program (Breakable σ) α).run =
      action >>= fun a => pure (.ok a) := rfl
  unfold outcome
  rw [lifted, Breakable.run_bind]
  rcases action.run state with ⟨_ | _, left⟩ <;> rfl

@[simp]
theorem outcome_bind (program : Program (Breakable σ) α) (next : α → Program (Breakable σ) β) :
    outcome (program >>= next) state =
      match outcome program state with
      | (.ok a, left) => outcome (next a) left
      | (.error halt, left) => (.error halt, left) := by
  unfold outcome
  rw [ExceptT.run_bind, Breakable.run_bind]
  rcases program.run.run state with ⟨_ | (_ | _), left⟩ <;> rfl

theorem outcome_bind_ok {program : Program (Breakable σ) α} {next : α → Program (Breakable σ) β}
    {state left : σ} {a : α} (ok : outcome program state = (.ok a, left)) :
    outcome (program >>= next) state = outcome (next a) left := by
  rw [outcome_bind, ok]

theorem outcome_bind_error {program : Program (Breakable σ) α}
    {next : α → Program (Breakable σ) β} {state left : σ} {halt : Halt}
    (failed : outcome program state = (.error halt, left)) :
    outcome (program >>= next) state = (.error halt, left) := by
  rw [outcome_bind, failed]

@[simp]
theorem outcome_orStop {ε : Type} (message : ε → String) (result : Except ε α) :
    outcome (orStop message result) state =
      (result.mapError fun error => .stopped (message error), state) := by
  cases result <;> rfl

end Program

end Outcomes

/-! ## Disks -/

/-- The files of a machine and what it has printed. -/
structure Disk where
  files : String → Option (List UInt8)
  /-- The files that cannot be written, each with what an attempt leaves of it. -/
  unwritable : String → Option (Option (List UInt8))
  /-- Whether the console takes a text after what was printed before. -/
  console : List Char → List Char → Bool
  printed : List Char

namespace Disk

/-- The disk with another content of a file, or without the file. -/
def withFile (disk : Disk) (path : String) (content : Option (List UInt8)) : Disk :=
  { disk with files := Function.update disk.files path content }

/-- The disk after a text has been printed. -/
def withPrinted (disk : Disk) (text : List Char) : Disk :=
  { disk with printed := disk.printed ++ text }

section Fields

variable (disk : Disk) (path : String) (content : Option (List UInt8)) (text more : List Char)

@[simp]
theorem withFile_console : (disk.withFile path content).console = disk.console := rfl

@[simp]
theorem withFile_printed : (disk.withFile path content).printed = disk.printed := rfl

@[simp]
theorem withPrinted_withPrinted :
    (disk.withPrinted text).withPrinted more = disk.withPrinted (text ++ more) := by
  simp [withPrinted]

end Fields

/-- The console takes every text. -/
def Prints (disk : Disk) : Prop := ∀ printed text, disk.console printed text = true

/-- What a program may hope for, but no system promises: a file that could not be written is as it
was before, and the console takes every text. -/
structure Reliable (disk : Disk) : Prop where
  kept : ∀ path left, disk.unwritable path = some left → left = disk.files path
  prints : disk.Prints

/-- A disk with these files, on which all can be written and nothing has been printed. -/
def ofFiles (files : String → Option (List UInt8)) : Disk :=
  ⟨files, fun _ => none, fun _ _ => true, []⟩

@[simp]
theorem ofFiles_files (files : String → Option (List UInt8)) : (ofFiles files).files = files := rfl

theorem reliable_ofFiles (files : String → Option (List UInt8)) : (ofFiles files).Reliable where
  kept _ _ := nofun
  prints _ _ := rfl

/-- The same disk, but a file cannot be written, and an attempt leaves this. -/
def stuck (disk : Disk) (path : String) (left : Option (List UInt8)) : Disk :=
  { disk with unwritable := Function.update disk.unwritable path (some left) }

theorem stuck_unwritable (disk : Disk) (path : String) (left : Option (List UInt8)) :
    (disk.stuck path left).unwritable = Function.update disk.unwritable path (some left) := rfl

theorem Reliable.stuck {disk : Disk} (reliable : disk.Reliable) (path : String) :
    (disk.stuck path (disk.files path)).Reliable where
  kept other left unwritable := by
    rw [stuck_unwritable] at unwritable
    by_cases same : other = path
    · rw [same, Function.update_self] at unwritable
      rw [same]
      exact (Option.some.inj unwritable).symm
    · rw [Function.update_of_ne same] at unwritable
      exact reliable.kept other left unwritable
  prints := reliable.prints

def read (path : String) : Breakable Disk (Option (List UInt8)) :=
  OptionT.mk fun disk => (some (disk.files path), disk)

def write (path : String) (text : List Char) : Breakable Disk Bool :=
  OptionT.mk fun disk =>
    match disk.unwritable path with
    | some left => (some false, disk.withFile path left)
    | none => (some true, disk.withFile path (some (Utf8.encode text)))

def print (text : List Char) : Breakable Disk Unit :=
  OptionT.mk fun disk =>
    -- what a console shows of a text that it does not take is of no account
    if disk.console disk.printed text then (some (), disk.withPrinted text) else (none, disk)

/-- The system with the files and the console of the disk. -/
def system (others : System (Breakable Disk)) : System (Breakable Disk) :=
  { others with read, write, print }

/-- A system whose calendar stands still. -/
def stoppedAt (now : Instant) (others : System (Breakable Disk)) : System (Breakable Disk) :=
  { others with now := pure now }

/-- A system on which nothing else happens: no time passes, and no server is there. -/
def idle : System (Breakable Disk) :=
  { read, write, print
    append := fun _ _ => pure false
    now := pure ⟨0, 0⟩
    clock := pure .zero
    log := fun _ => pure ()
    connection := ⟨fun _ _ _ => pure (.refused, .zero), fun _ _ => pure .refused, fun _ => pure ()⟩
    together := fun _ => pure [] }

section Run

variable (others : System (Breakable Disk)) (disk : Disk)

@[simp]
theorem system_read (path : String) :
    ((system others).read path).run disk = (some (disk.files path), disk) := rfl

@[simp]
theorem system_stoppedAt_now (now : Instant) :
    ((system (stoppedAt now others)).now).run disk = (some now, disk) := rfl

theorem run_say {text : List Char} (takes : disk.console disk.printed text = true) :
    Program.outcome ((system others).say text) disk = (.ok (), disk.withPrinted text) := by
  have printed : ((system others).print text).run disk = (some (), disk.withPrinted text) := by
    change (print text).run disk = _
    simp [print, takes]
  simp [System.say, printed]

theorem run_say_refused {text : List Char} (refuses : disk.console disk.printed text = false) :
    Program.outcome ((system others).say text) disk = (.error .brokenOff, disk) := by
  have printed : ((system others).print text).run disk = (none, disk) := by
    change (print text).run disk = _
    simp [print, refuses]
  simp [System.say, printed]

theorem run_sayLine {line : List Char}
    (takes : disk.console disk.printed (line ++ ['\n']) = true) :
    Program.outcome ((system others).sayLine line) disk =
      (.ok (), disk.withPrinted (line ++ ['\n'])) :=
  run_say others disk takes

theorem run_sayLine_refused {line : List Char}
    (refuses : disk.console disk.printed (line ++ ['\n']) = false) :
    Program.outcome ((system others).sayLine line) disk = (.error .brokenOff, disk) :=
  run_say_refused others disk refuses

theorem run_read (path : String) :
    Program.outcome (liftM ((system others).read path)) disk = (.ok (disk.files path), disk) := rfl

theorem run_load {path : String} {value : Json.Value}
    (read : Json.readDocument path (disk.files path) = .ok value) :
    Program.outcome ((system others).load path) disk = (.ok value, disk) := by
  rw [System.load, Program.outcome_bind_ok (run_read others disk path), read]
  rfl

theorem run_load_failed {path : String} {error : Json.DocumentError}
    (unread : Json.readDocument path (disk.files path) = .error error) :
    Program.outcome ((system others).load path) disk = (.error (.stopped error.message), disk) := by
  rw [System.load, Program.outcome_bind_ok (run_read others disk path), unread]
  rfl

theorem run_save_failed (message path : String) (text : List Char) {left : Option (List UInt8)}
    (unwritable : disk.unwritable path = some left) :
    Program.outcome ((system others).save message path text) disk =
      (.error (.stopped (message ++ path)), disk.withFile path left) := by
  have attempted : ((system others).write path text).run disk =
      (some false, disk.withFile path left) := by
    change (write path text).run disk = _
    simp [write, unwritable]
  simp [System.save, attempted]

theorem run_save (message path : String) (text : List Char)
    (writable : disk.unwritable path = none) :
    Program.outcome ((system others).save message path text) disk =
      (.ok (), disk.withFile path (some (Utf8.encode text))) := by
  have written : ((system others).write path text).run disk =
      (some true, disk.withFile path (some (Utf8.encode text))) := by
    change (write path text).run disk = _
    simp [write, writable]
  simp [System.save, written]

end Run

/-! ## Reporting and saving -/

/-- How a program ends that does no more than print, and then gives a value. -/
inductive Reports {α : Type} (disk : Disk) (a : α) : Except Halt α × Disk → Prop
  | told {left} : left.files = disk.files → Reports disk a (.ok a, left)
  | untold {left printed text} : left.files = disk.files → disk.console printed text = false →
      Reports disk a (.error .brokenOff, left)

/-- How a program ends that writes a file, and then does no more than print. -/
inductive Saves {α : Type} (disk : Disk) (path : String) (text : List Char) (a : α) :
    Except Halt α × Disk → Prop
  | unwritten {content left} : disk.unwritable path = some content →
      left.files = Function.update disk.files path content →
      Saves disk path text a (.error (.stopped ("failed to write " ++ path)), left)
  | written {outcome} : disk.unwritable path = none →
      Reports (disk.withFile path (some (Utf8.encode text))) a outcome →
      Saves disk path text a outcome

/-- How a program fails after it has begun to write a file, and the files that it leaves: the file
cannot be written, and holds what the attempt has left, or it is written, and the console does not
take a text. -/
inductive FailsLate (disk : Disk) (path : String) (text : List Char) :
    Halt → (String → Option (List UInt8)) → Prop
  | unwritten {left} : disk.unwritable path = some left →
      FailsLate disk path text (.stopped ("failed to write " ++ path))
        (Function.update disk.files path left)
  | unreported {printed refused} : disk.unwritable path = none →
      disk.console printed refused = false →
      FailsLate disk path text .brokenOff
        (Function.update disk.files path (some (Utf8.encode text)))

section Ends

variable {α : Type} {disk : Disk} {path : String} {text : List Char} {a : α}
  {outcome : Except Halt α × Disk} {rest : Program (Breakable Disk) α}
  (others : System (Breakable Disk))

theorem Reports.files (reports : Reports disk a outcome) : outcome.2.files = disk.files := by
  cases reports with
  | told same | untold same => exact same

theorem Reports.of_withPrinted (reports : Reports (disk.withPrinted text) a outcome) :
    Reports disk a outcome := by
  cases reports with
  | told same => exact .told same
  | untold same refuses => exact .untold same refuses

theorem Reports.say
    (reports : Reports (disk.withPrinted text) a (rest.outcome (disk.withPrinted text))) :
    Reports disk a (Program.outcome (do (system others).say text; rest) disk) := by
  cases takes : disk.console disk.printed text with
  | true =>
      rw [Program.outcome_bind_ok (run_say others disk takes)]
      exact reports.of_withPrinted
  | false =>
      rw [Program.outcome_bind_error (run_say_refused others disk takes)]
      exact .untold rfl takes

theorem Reports.sayLine {line : List Char}
    (reports : Reports (disk.withPrinted (line ++ ['\n'])) a
      (rest.outcome (disk.withPrinted (line ++ ['\n'])))) :
    Reports disk a (Program.outcome (do (system others).sayLine line; rest) disk) :=
  reports.say others

theorem Saves.save
    (reports : Reports (disk.withFile path (some (Utf8.encode text))) a
      (rest.outcome (disk.withFile path (some (Utf8.encode text))))) :
    Saves disk path text a
      (Program.outcome (do (system others).save "failed to write " path text; rest) disk) := by
  cases content : disk.unwritable path with
  | some left =>
      rw [Program.outcome_bind_error (run_save_failed others disk _ _ _ content)]
      exact .unwritten content rfl
  | none =>
      rw [Program.outcome_bind_ok (run_save others disk _ _ _ content)]
      exact .written content reports

theorem Saves.of_withPrinted {printed : List Char}
    (saves : Saves (disk.withPrinted printed) path text a outcome) :
    Saves disk path text a outcome := by
  cases saves with
  | unwritten content holds => exact .unwritten content holds
  | written content reports =>
      cases reports with
      | told same => exact .written content (.told same)
      | untold same refuses => exact .written content (.untold same refuses)

theorem Saves.files_of_ok (saves : Saves disk path text a outcome) {b : α}
    (succeeded : outcome.1 = .ok b) :
    outcome.2.files = Function.update disk.files path (some (Utf8.encode text)) := by
  cases saves with
  | unwritten => cases succeeded
  | written _ reports => exact reports.files

theorem Saves.failsLate (saves : Saves disk path text a outcome) {halt : Halt}
    (failed : outcome.1 = .error halt) : disk.FailsLate path text halt outcome.2.files := by
  cases saves with
  | unwritten content holds =>
      cases failed
      rw [holds]
      exact .unwritten content
  | written content reports =>
      cases reports with
      | told => cases failed
      | untold same refuses =>
          cases failed
          rw [same]
          exact .unreported content refuses

/-- A late failure leaves other files only where something goes halfway. -/
theorem FailsLate.files {halt : Halt} {files : String → Option (List UInt8)}
    (late : disk.FailsLate path text halt files) (reliable : disk.Reliable) :
    files = disk.files := by
  cases late with
  | unwritten content =>
      rw [reliable.kept _ _ content]
      exact Function.update_eq_self _ _
  | unreported content refuses => simp [reliable.prints _ _] at refuses

end Ends

end Disk

end InferenceBench.Command
