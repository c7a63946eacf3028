import Std.Async.DNS
import Std.Async.TCP
import Std.Async.Timer
import InferenceBench.Command.Programs
import InferenceBench.Run.TaskSet
import InferenceBench.Server.Http

/-! # The command line

The first argument names the program; the others are its own. Everything here only carries out on
the machine what the programs ask for. -/

open InferenceBench
open Std.Async Std.Net

namespace InferenceBench.Machine

/-- The addresses of a host. -/
def addresses (host : String) : Async (Array IPAddr) := do
  let bare := String.ofList (host.toList.filter fun c => c ≠ '[' && c ≠ ']')
  DNS.getAddrInfo bare ""

def socketAddress (address : IPAddr) (port : UInt16) : SocketAddress :=
  match address with
  | .v4 addr => .v4 { addr, port }
  | .v6 addr => .v6 { addr, port }

/-- Reads until the reply is complete or the connection ends. -/
partial def receive (client : TCP.Socket.Client) (seen : List UInt8) : Async Reply := do
  match ← client.recv? 65536 with
  | none => return (Http.reply? true seen).getD .closed
  | some bytes =>
    let seen := seen ++ bytes.toList
    match Http.reply? false seen with
    | some reply => return reply
    | none => receive client seen

/-- One request and its reply. Servers that ask for encryption are out of reach. -/
def exchange (method : Http.Method) (url : Url) : Async Reply := do
  if url.scheme = .https then return .refused
  let port := UInt16.ofNat (url.port.getD url.scheme.port)
  let found ← addresses (String.ofList url.host)
  match found[0]? with
  | none => return .refused
  | some address =>
    let client ← TCP.Socket.Client.mk
    client.connect (socketAddress address port)
    try
      client.send (ByteArray.mk (Http.requestBytes method url).toArray)
      receive client []
    catch _ => return .closed

/-- An exchange that may take only so long. -/
def withTimeout (timeout : Span) (act : Async Reply) : IO Reply :=
  let act : Async Reply := tryCatch act fun _ => pure .refused
  let limit : Async Reply := do
    Std.Async.sleep (.ofNat timeout.milliseconds)
    return .timedOut
  (Async.race act limit).block

def isoNow : IO Instant := do
  let nanoseconds := (← Std.Time.Timestamp.now).toNanosecondsSinceUnixEpoch.val
  return ⟨nanoseconds.fdiv 1000000000, (nanoseconds.fmod 1000000000).toNat⟩

def readFile (path : String) : IO (Option (List UInt8)) := do
  try return some (← IO.FS.readBinFile path).toList
  catch _ => return none

/-- Carries out an action on a file; whether it went well. -/
def succeeds (act : IO Unit) : IO Bool := do
  try
    act
    return true
  catch _ => return false

def bytesOf (text : List Char) : ByteArray := ByteArray.mk (Utf8.encode text).toArray

def appendFile (path : String) (text : List Char) : IO Unit := do
  let file ← IO.FS.Handle.mk path .append
  file.write (bytesOf text)

/-- Prints at once, so that a console that takes no text is noticed before the program goes on. -/
def print (text : List Char) : IO Unit := do
  let console ← IO.getStdout
  console.write (bytesOf text)
  console.flush

def log (event : Event) : IO Unit := do
  if event.level ≠ .debug then
    let fields := event.fields.map fun (name, tree) => ' ' :: name.toList ++ '=' :: tree.compact
    IO.eprintln (String.ofList
      (event.level.name.toList ++ ' ' :: event.message.toList ++ fields.flatten))

def connection : Connection IO :=
  { post := fun url body timeout => do
      let start ← IO.monoNanosNow
      let reply ← withTimeout timeout (exchange (.post body) url)
      let stop ← IO.monoNanosNow
      return (reply, ⟨stop - start⟩)
    get := fun url timeout => withTimeout timeout (exchange .get url)
    sleep := fun span => IO.sleep (UInt32.ofNat (min span.milliseconds 4294967295)) }

/-- Tasks in threads of their own, numbered from one. -/
def taskSet : IO (TaskSet IO (Call × IO Outcome)) := do
  let threads ← IO.mkRef #[]
  let endings ← IO.mkRef []
  return {
    spawn := fun (_, act) => do
      let number := (← threads.get).size + 1
      let act : IO Unit := do
        let ending ← try pure (.finished (← act))
          catch error => pure (.crashed number (toString error))
        endings.modify (ending :: ·)
      let thread ← IO.asTask act .dedicated
      threads.modify (·.push thread)
      return number
    joinAll := do
      for thread in ← threads.get do
        let _ ← IO.wait thread
      return (← endings.get).reverse }

/-- Runs every call in a thread of its own. -/
def together (calls : List (Call × IO Outcome)) : IO (List Ending) := do
  (← taskSet).perform (·.1.requestId) calls

def system : Command.System IO :=
  { read := readFile
    write := fun path text => succeeds (IO.FS.writeBinFile path (bytesOf text))
    append := fun path text => succeeds (appendFile path text)
    print
    now := isoNow
    clock := do return ⟨← IO.monoNanosNow⟩
    log, connection, together }

/-- The variables that the options of a program name. -/
def environment (options : List Command.OptionSpec) : IO (List (String × String)) :=
  options.filterMapM fun option => do
    match option.stand with
    | some name => return (← IO.getEnv name).map fun value => (name, value)
    | none => return none

/-- What the caller is told about how a program ended. -/
def report (name : Command.ProgramName) : Command.Exit → IO Unit
  | .refused .help => do
    IO.println ("Usage: " ++ name.text ++ " [OPTIONS]")
    for option in name.options do
      IO.println ("  --" ++ option.name)
  | .refused .usage =>
    IO.eprintln ("error: the arguments are not those of " ++ name.text ++ "; see --help")
  | .stopped message => IO.eprintln ("Error: " ++ message)
  | .done _ => pure ()

end InferenceBench.Machine

open InferenceBench.Machine in
def main (arguments : List String) : IO UInt32 := do
  match arguments with
  | [] =>
    IO.eprintln "error: the first argument has to name a program"
    return 2
  | first :: rest =>
    match Command.ProgramName.ofText? first with
    | none =>
      IO.eprintln ("error: there is no program " ++ first)
      return 2
    | some name =>
      try
        let exit ← Command.call name system (← environment name.options) rest
        report name exit
        return UInt32.ofNat exit.code
      catch error =>
        -- a step broke off, and the program with it
        IO.eprintln (toString error)
        return 101
