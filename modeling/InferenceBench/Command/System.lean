import InferenceBench.Json.Document
import InferenceBench.Run.Batch
import InferenceBench.Server.Attempt
import InferenceBench.Time.Instant

/-! # What programs do

A program reads and writes files, prints, looks at clocks and talks to servers. All of this is a
record of operations, so that a program can be run on the machine as well as on a model of it. -/

namespace InferenceBench.Command

structure System (m : Type → Type) where
  /-- The bytes of a file, if it can be read. -/
  read : (path : String) → m (Option (List UInt8))
  /-- Writes a file; whether this went well. A failed attempt may leave anything in the file. -/
  write : (path : String) → List Char → m Bool
  /-- Adds to the end of a file; whether this went well. -/
  append : (path : String) → List Char → m Bool
  /-- Prints a text. Where the console does not take it, this breaks off in `m`, and so does every
  program, at once: none of them looks after it. -/
  print : List Char → m Unit
  now : m Instant
  /-- A clock that never goes back. -/
  clock : m Span
  log : Event → m Unit
  connection : Connection m
  /-- Runs all calls at once and gives their endings in the order in which they came about. -/
  together : List (Call × m Outcome) → m (List Ending)

/-- How a program ends that could do its work. -/
inductive Verdict where
  | success
  /-- The work is done, and its result is not good enough. -/
  | failure
  deriving Repr, DecidableEq

/-- A program that may stop with a message. -/
abbrev Program (m : Type → Type) (α : Type) : Type := ExceptT String m α

variable {m : Type → Type} [Monad m]

/-- Goes on with a value, or stops with the message of an error. -/
def orStop {ε α : Type} (message : ε → String) : Except ε α → Program m α
  | .ok a => pure a
  | .error error => throw (message error)

namespace System

def say (system : System m) (text : List Char) : Program m Unit := system.print text

/-- Prints a line. -/
def sayLine (system : System m) (line : List Char) : Program m Unit := system.print (line ++ ['\n'])

/-- The document in a file. -/
def load (system : System m) (path : String) : Program m Json.Value := do
  orStop Json.DocumentError.message (Json.readDocument path (← system.read path))

/-- Writes a file, or stops with the message and the path. -/
def save (system : System m) (message path : String) (text : List Char) : Program m Unit := do
  if !(← system.write path text) then throw (message ++ path)

end System

end InferenceBench.Command
