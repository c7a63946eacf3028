import InferenceBench.Proofs.Accuracy.Collection
import InferenceBench.Proofs.Command.Disk

/-! # Programs that talk to a server

A machine with a disk, on which a server can be reached that replies as foretold. What a program
does to the disk leaves the transcript of the talk as it is, and the other way around.
-/

namespace InferenceBench.Command

/-- The disk of a machine, and what was said to the server and to the log. -/
structure Session where
  disk : Disk
  transcript : Transcript

namespace Session

instance : MonadLift (Breakable Disk) (Breakable Session) where
  monadLift action := OptionT.mk fun session =>
    ((action.run session.disk).1, { session with disk := (action.run session.disk).2 })

instance : MonadLift (StateM Transcript) (StateM Session) where
  monadLift action := fun session =>
    ((action session.transcript).1, { session with transcript := (action session.transcript).2 })

instance : LawfulMonadLift (StateM Transcript) (StateM Session) where
  monadLift_pure _ := rfl
  monadLift_bind _ _ := rfl

/-- The system of the machine. The operations that neither the disk nor the server carries out are
arbitrary, but the calendar stands still. -/
def system (foretold : Foretold) (now : Instant) (others : System (Breakable Session)) :
    System (Breakable Session) :=
  { others with
    read path := liftM (Disk.read path)
    write path text := liftM (Disk.write path text)
    print text := liftM (Disk.print text)
    now := pure now
    log event := liftM (Transcript.tell event)
    connection := (Transcript.server foretold).lift }

/-- A system on which nothing happens. -/
def idle : System (Breakable Session) where
  read _ := pure none
  write _ _ := pure false
  append _ _ := pure false
  print _ := pure ()
  now := pure ⟨0, 0⟩
  clock := pure .zero
  log _ := pure ()
  connection := ⟨fun _ _ _ => pure (.refused, .zero), fun _ _ => pure .refused, fun _ => pure ()⟩
  together _ := pure []

section Run

variable (foretold : Foretold) (now : Instant) (others : System (Breakable Session))
  (session : Session)

@[simp]
theorem system_read (path : String) :
    ((system foretold now others).read path).run session =
      (some (session.disk.files path), session) := rfl

@[simp]
theorem run_checkHealth (client : AccuracyClient) :
    (client.checkHealth (system foretold now others).connection).run session =
      (some (AccuracyClient.isHealthy foretold.health), { session with
        transcript := { session.transcript with
          actions := session.transcript.actions ++
            [.asked .get client.healthUrl client.healthTimeout foretold.health] } }) := rfl

@[simp]
theorem run_collect (client : AccuracyClient) (prompts : List String) (time : Instant) :
    (client.collect (system foretold now others).connection (system foretold now others).log
        prompts time).run session =
      (some (Transcript.collect foretold client prompts time session.transcript).1,
        { session with transcript :=
            (Transcript.collect foretold client prompts time session.transcript).2 }) := by
  have lifted : client.collect (system foretold now others).connection
      (system foretold now others).log prompts time =
      (liftM (client.collect (Transcript.server foretold) Transcript.tell prompts time) :
        Breakable Session ResponseSet) := client.collect_lift _ _ prompts time
  rw [lifted]
  rfl

theorem run_save (message path : String) (text : List Char) :
    Program.outcome ((system foretold now others).save message path text) session =
      match session.disk.unwritable path with
      | some left =>
        (.error (.stopped (message ++ path)),
          { session with disk := session.disk.withFile path left })
      | none =>
        (.ok (), { session with
          disk := session.disk.withFile path (some (Utf8.encode text)) }) := by
  have written : ((system foretold now others).write path text).run session =
      (((Disk.write path text).run session.disk).1,
        { session with disk := ((Disk.write path text).run session.disk).2 }) := rfl
  cases content : session.disk.unwritable path <;>
    simp [System.save, written, Disk.write, content]

theorem run_sayLine (line : List Char) :
    Program.outcome ((system foretold now others).sayLine line) session =
      if session.disk.console session.disk.printed (line ++ ['\n']) then
        (.ok (), { session with disk := session.disk.withPrinted (line ++ ['\n']) })
      else (.error .brokenOff, session) := by
  have printed : ((system foretold now others).print (line ++ ['\n'])).run session =
      (((Disk.print (line ++ ['\n'])).run session.disk).1,
        { session with disk := ((Disk.print (line ++ ['\n'])).run session.disk).2 }) := rfl
  cases takes : session.disk.console session.disk.printed (line ++ ['\n']) <;>
    simp [System.sayLine, printed, Disk.print, takes]

end Run

end Session

end InferenceBench.Command
