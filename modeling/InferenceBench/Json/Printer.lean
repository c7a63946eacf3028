import InferenceBench.Json.Tree

/-! # Writing JSON

A tree has two written forms: compact, without any spacing, and pretty, with every item and
field on a line of its own, indented by two spaces for each container around it. -/

namespace InferenceBench.Json

/-- Four digits, base sixteen. -/
def unitText (unit : Nat) : List Char :=
  let digits := Nat.toDigits 16 unit
  ['\\', 'u'] ++ List.replicate (4 - digits.length) '0' ++ digits

/-- A character inside a string: quotes, backslashes and control characters are escaped. -/
def charText (c : Char) : List Char :=
  match c with
  | '"' => ['\\', '"']
  | '\\' => ['\\', '\\']
  | '\x08' => ['\\', 'b']
  | '\x0C' => ['\\', 'f']
  | '\n' => ['\\', 'n']
  | '\r' => ['\\', 'r']
  | '\t' => ['\\', 't']
  | _ => if c.toNat < 0x20 then unitText c.toNat else [c]

def Piece.written : Piece → List Char
  | .char c => charText c
  | .broken => ['\uFFFD']
  | .surrogate unit => unitText unit

/-- A string between its quotes. -/
def stringText (pieces : List Piece) : List Char :=
  '"' :: pieces.flatMap Piece.written ++ ['"']

def booleanText (value : Bool) : List Char := if value then "true".toList else "false".toList

mutual

/-- The compact form of a tree. -/
def Tree.compact : Tree → List Char
  | .null => "null".toList
  | .boolean value => booleanText value
  | .number text => text
  | .text pieces => stringText pieces
  | .array items => '[' :: compactItems items ++ [']']
  | .object fields => '\x7B' :: compactFields fields ++ ['\x7D']

def compactItems : List Tree → List Char
  | [] => []
  | [item] => item.compact
  | item :: next :: rest => item.compact ++ ',' :: compactItems (next :: rest)

def compactFields : List (List Piece × Tree) → List Char
  | [] => []
  | [(key, tree)] => stringText key ++ ':' :: tree.compact
  | (key, tree) :: next :: rest =>
    stringText key ++ ':' :: tree.compact ++ ',' :: compactFields (next :: rest)

end

/-- A new line inside `depth` containers. -/
def newLine (depth : Nat) : List Char := '\n' :: List.replicate (2 * depth) ' '

mutual

/-- The pretty form of a tree inside `depth` containers. -/
def Tree.prettyAt (depth : Nat) : Tree → List Char
  | .null => "null".toList
  | .boolean value => booleanText value
  | .number text => text
  | .text pieces => stringText pieces
  | .array [] => ['[', ']']
  | .array (item :: rest) => '[' :: prettyItems (depth + 1) (item :: rest) ++ newLine depth ++ [']']
  | .object [] => ['\x7B', '\x7D']
  | .object (field :: rest) =>
    '\x7B' :: prettyFields (depth + 1) (field :: rest) ++ newLine depth ++ ['\x7D']

def prettyItems (depth : Nat) : List Tree → List Char
  | [] => []
  | [item] => newLine depth ++ item.prettyAt depth
  | item :: next :: rest =>
    newLine depth ++ item.prettyAt depth ++ ',' :: prettyItems depth (next :: rest)

def prettyFields (depth : Nat) : List (List Piece × Tree) → List Char
  | [] => []
  | [(key, tree)] => newLine depth ++ stringText key ++ ':' :: ' ' :: tree.prettyAt depth
  | (key, tree) :: next :: rest =>
    newLine depth ++ stringText key ++ ':' :: ' ' :: tree.prettyAt depth ++
      ',' :: prettyFields depth (next :: rest)

end

def Tree.pretty (tree : Tree) : List Char := tree.prettyAt 0

end InferenceBench.Json
