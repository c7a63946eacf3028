import InferenceBench.Json.Value
import InferenceBench.Text.Blank

/-! # Prompts

A file of prompts holds a JSON object on each line, with the prompt under `prompt` or else under
`text`. Blank lines are skipped. Reading stops as soon as there are enough prompts, so that what
comes later is not even looked at. -/

namespace InferenceBench

open Json

/-- What is wrong with a line, which is given by its number from one on. -/
inductive PromptError where
  | unreadable (line : Nat)
  | invalid (line : Nat) (text : List Char)
  | missingField (line : Nat)
  deriving Repr, DecidableEq

def PromptError.message (error : PromptError) : String :=
  String.ofList <| match error with
    | .unreadable line => "failed to read line ".toList ++ Numeral.digitText line
    | .invalid line text =>
      "line ".toList ++ Numeral.digitText line ++ " is not valid JSON: ".toList ++ text
    | .missingField line =>
      "line ".toList ++ Numeral.digitText line ++
        " missing string field \x60prompt\x60 or \x60text\x60".toList

/-- The prompt of an object. -/
def promptOf? (value : Value) : Option String :=
  ((value.field? "prompt").or (value.field? "text")).bind Value.asText?

/-- The prompt on a line, or none if the line is blank. -/
def readPromptLine (line : Nat) (bytes : List UInt8) : Except PromptError (Option String) :=
  match Utf8.decode? bytes with
  | none => .error (.unreadable line)
  | some text =>
    let text := Text.trim text
    if text.isEmpty then .ok none
    else
      match Value.ofText? text with
      | none => .error (.invalid line text)
      | some value =>
        match promptOf? value with
        | some prompt => .ok (some prompt)
        | none => .error (.missingField line)

/-- Whether so many prompts are enough. -/
def isEnough (limit : Option Nat) (count : Nat) : Bool :=
  match limit with
  | some limit => limit ≤ count
  | none => false

/-- The prompts on the lines from the given one on, where `count` have been read before. -/
def readPromptLines (limit : Option Nat) (line count : Nat) :
    List (List UInt8) → Except PromptError (List String)
  | [] => .ok []
  | bytes :: rest =>
    if isEnough limit count then .ok []
    else
      match readPromptLine line bytes with
      | .error error => .error error
      | .ok none => readPromptLines limit (line + 1) count rest
      | .ok (some prompt) =>
        (readPromptLines limit (line + 1) (count + 1) rest).map (prompt :: ·)

/-- The lines of a file; a line end at its end does not begin another one. -/
def fileLines (bytes : List UInt8) : List (List UInt8) :=
  let lines := Text.partsBy (· = 10) bytes
  if lines.getLast? = some [] then lines.dropLast else lines

/-- The prompts of a file, no more than the limit. -/
def readPrompts (limit : Option Nat) (bytes : List UInt8) : Except PromptError (List String) :=
  readPromptLines limit 1 0 (fileLines bytes)

end InferenceBench
