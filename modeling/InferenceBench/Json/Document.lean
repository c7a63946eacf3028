import InferenceBench.Json.Printer
import InferenceBench.Json.Value

/-! # Documents in files

A file holds a document if it can be read as text and the text is JSON. -/

namespace InferenceBench.Json

/-- Why a file holds no document. -/
inductive DocumentError where
  | unreadable (path : String)
  | invalid (path : String)
  deriving Repr, DecidableEq

def DocumentError.message : DocumentError → String
  | .unreadable path => "file not found or unreadable: " ++ path
  | .invalid path => "invalid JSON in " ++ path

/-- The document in a file, given its bytes if there is such a file. -/
def readDocument (path : String) (bytes : Option (List UInt8)) : Except DocumentError Value :=
  match bytes.bind Utf8.decode? with
  | none => .error (.unreadable path)
  | some text =>
    match Value.ofText? text with
    | some value => .ok value
    | none => .error (.invalid path)

/-- A document as it is written to a file. -/
def Value.document (value : Value) : List Char := value.tree.pretty

end InferenceBench.Json
