import InferenceBench.Numeral.Reading
import InferenceBench.Text.Split

/-! # Command lines

A program takes options by name: a flag alone, and any other option with a value, which follows as
the next argument or after an equals sign. An argument that starts with a dash is never such a
value. Where an option is not given, an environment variable may stand in for it. -/

namespace InferenceBench.Command

/-- What the value of an option has to be. -/
inductive ValueKind where
  | text
  /-- A path, which is not empty. -/
  | path
  /-- An integer of 64 bits without sign. -/
  | natural
  /-- An integer of 32 bits without sign. -/
  | short
  | double
  deriving Repr, DecidableEq

/-- How an option is given. -/
inductive Shape where
  | flag
  | single (kind : ValueKind)
  /-- Any number of times, each time with values between commas. -/
  | list (kind : ValueKind)
  deriving Repr, DecidableEq

structure OptionSpec where
  name : String
  shape : Shape
  /-- The environment variable that stands in for the option. -/
  stand : Option String
  deriving Repr, DecidableEq

/-- Why a command line is not run. -/
inductive Refusal where
  /-- It asks for help instead. -/
  | help
  | usage
  deriving Repr, DecidableEq

/-- The options that are given, with their values. -/
abbrev Given := List (String × List (List Char))

/-- An integer of 64 bits without sign. -/
def readWord? (text : List Char) : Option Nat :=
  (Numeral.readNatural? text).filter (· < UInt64.size)

/-- An integer of 32 bits without sign; a minus sign before zero does no harm. -/
def readShort? (text : List Char) : Option Nat :=
  match Numeral.readInteger? text with
  | some n => if 0 ≤ n && n < UInt32.size then some n.toNat else none
  | none => none

def ValueKind.accepts (kind : ValueKind) (text : List Char) : Bool :=
  match kind with
  | .text => true
  | .path => !text.isEmpty
  | .natural => (readWord? text).isSome
  | .short => (readShort? text).isSome
  | .double => (Numeral.readDouble? text).isSome

namespace Given

/-- The values of an option, if it is given. -/
def values? (name : String) (given : Given) : Option (List (List Char)) :=
  (given.find? fun entry => entry.1 = name).map Prod.snd

def isGiven (name : String) (given : Given) : Bool := (given.values? name).isSome

/-- Adds values to those that an option has. -/
def add (name : String) (values : List (List Char)) (given : Given) : Given :=
  (name, (given.values? name).getD [] ++ values) :: given

/-- The value of an option that is given once. -/
def value? (name : String) (given : Given) : Option (List Char) :=
  (given.values? name).bind List.head?

def text? (name : String) (given : Given) : Option String := (given.value? name).map String.ofList

def natural? (name : String) (given : Given) : Option Nat := (given.value? name).bind readWord?

def short? (name : String) (given : Given) : Option Nat := (given.value? name).bind readShort?

def double? (name : String) (given : Given) : Option Float :=
  (given.value? name).bind Numeral.readDouble?

/-- The integers of an option that is a list. -/
def naturals? (name : String) (given : Given) : Option (List Nat) :=
  (given.values? name).bind fun values => values.mapM readWord?

end Given

/-- The options with one more value, if it is acceptable. Only a list may be given again. -/
def OptionSpec.take (option : OptionSpec) (value : List Char) (given : Given) :
    Except Refusal Given :=
  match option.shape with
  | .flag => if given.isGiven option.name then .error .usage else .ok (given.add option.name [])
  | .single kind =>
    if given.isGiven option.name || !kind.accepts value then .error .usage
    else .ok (given.add option.name [value])
  | .list kind =>
    let values := Text.partsBy (· = ',') value
    if values.all kind.accepts then .ok (given.add option.name values) else .error .usage

/-- Whether an argument asks for help. -/
def asksForHelp (argument : List Char) : Bool :=
  argument == "--help".toList || "-h".toList.isPrefixOf argument

/-- Whether an argument names an option and so cannot be a value; a dash alone is a value. -/
def namesOption (argument : List Char) : Bool := argument.head? == some '-' && 1 < argument.length

/-- The name of an option, and the value that follows it after an equals sign. -/
def splitArgument? (argument : List Char) : Option (List Char × Option (List Char)) :=
  ("--".toList.isPrefixOf? argument).map fun body =>
    match Text.splitAtChar? '=' body with
    | some (name, value) => (name, some value)
    | none => (body, none)

/-- The options of the arguments, added to those that are given already. If an option is waiting
for its value, the first argument has to be that. -/
def readArguments (options : List OptionSpec) (given : Given) :
    (waiting : Option OptionSpec) → List (List Char) → Except Refusal Given
  | none, [] => .ok given
  | some _, [] => .error .usage
  | some option, value :: rest =>
    if namesOption value then .error .usage
    else
      match option.take value given with
      | .ok given => readArguments options given none rest
      | .error refusal => .error refusal
  | none, argument :: rest =>
    if asksForHelp argument then .error .help
    else if argument = ['-', '-'] then if rest.isEmpty then .ok given else .error .usage
    else
      match splitArgument? argument with
      | none => .error .usage
      | some (name, attached) =>
        match options.find? fun option => option.name.toList = name with
        | none => .error .usage
        | some option =>
          match option.shape, attached with
          | .flag, some _ => .error .usage
          | .flag, none | .single _, some _ | .list _, some _ =>
            match option.take (attached.getD []) given with
            | .ok given => readArguments options given none rest
            | .error refusal => .error refusal
          | .single _, none | .list _, none => readArguments options given (some option) rest

/-- The value that the environment has for an option that is not given. -/
def OptionSpec.standIn (option : OptionSpec) (environment : List (String × String))
    (given : Given) : Except Refusal Given :=
  match option.stand.bind (environment.lookup ·) with
  | some value =>
    if given.isGiven option.name then .ok given else option.take value.toList given
  | none => .ok given

/-- The options that a program is run with. -/
def readOptions (options : List OptionSpec) (environment : List (String × String))
    (arguments : List String) : Except Refusal Given := do
  let given ← readArguments options [] none (arguments.map String.toList)
  options.foldlM (fun given option => option.standIn environment given) given

end InferenceBench.Command
