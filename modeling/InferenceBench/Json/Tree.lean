import InferenceBench.Json.Token

/-! # JSON trees

A tree is a JSON text without its spacing: numbers as they are written, strings as their pieces,
fields in the order of the text with their repetitions. It is what documents are read from, and
what they are written as.

Trees are built token by token. The building keeps the containers that are still open, innermost
first, each with what it holds so far. -/

namespace InferenceBench.Json

inductive Tree where
  | null
  | boolean (value : Bool)
  | number (text : List Char)
  | text (pieces : List Piece)
  | array (items : List Tree)
  | object (fields : List (List Piece × Tree))
  deriving Repr

/-- An open container that waits for a value; its contents are kept from their end. -/
inductive Frame where
  | array (items : List Tree)
  | object (fields : List (List Piece × Tree)) (key : List Piece)
  deriving Repr

/-- A tree under construction, by what the next token may be. -/
inductive Building where
  | value (frames : List Frame)
  /-- Just after the start of an array: a value or its end. -/
  | firstItem (frames : List Frame)
  | afterItem (items : List Tree) (frames : List Frame)
  /-- Just after the start of an object: a key or its end. -/
  | firstKey (frames : List Frame)
  | key (fields : List (List Piece × Tree)) (frames : List Frame)
  | afterKey (fields : List (List Piece × Tree)) (key : List Piece) (frames : List Frame)
  | afterField (fields : List (List Piece × Tree)) (frames : List Frame)
  | done (tree : Tree)
  deriving Repr

namespace Building

/-- A complete value goes to the innermost open container. -/
def deliver (tree : Tree) : List Frame → Building
  | [] => .done tree
  | .array items :: frames => .afterItem (tree :: items) frames
  | .object fields name :: frames => .afterField ((name, tree) :: fields) frames

/-- A token where a value must begin. -/
def begin (token : Token) (frames : List Frame) : Option Building :=
  match token with
  | .null => some (deliver .null frames)
  | .boolean flag => some (deliver (.boolean flag) frames)
  | .number text => some (deliver (.number text) frames)
  | .text pieces => some (deliver (.text pieces) frames)
  | .openArray => some (.firstItem frames)
  | .openObject => some (.firstKey frames)
  | .closeArray | .closeObject | .comma | .colon => none

/-- One token further. -/
def step (building : Building) (token : Token) : Option Building :=
  match building, token with
  | .value frames, _ => begin token frames
  | .firstItem frames, .closeArray => some (deliver (.array []) frames)
  | .firstItem frames, _ => begin token (.array [] :: frames)
  | .afterItem items frames, .comma => some (.value (.array items :: frames))
  | .afterItem items frames, .closeArray => some (deliver (.array items.reverse) frames)
  | .firstKey frames, .closeObject => some (deliver (.object []) frames)
  | .firstKey frames, .text name => some (.afterKey [] name frames)
  | .key fields frames, .text name => some (.afterKey fields name frames)
  | .afterKey fields name frames, .colon => some (.value (.object fields name :: frames))
  | .afterField fields frames, .comma => some (.key fields frames)
  | .afterField fields frames, .closeObject => some (deliver (.object fields.reverse) frames)
  | _, _ => none

def tree? : Building → Option Tree
  | .done tree => some tree
  | _ => none

end Building

/-- The tree that the tokens spell. -/
def Tree.ofTokens? (tokens : List Token) : Option Tree :=
  (tokens.foldlM Building.step (Building.value [])).bind Building.tree?

/-- The tree of a JSON text that may be broken in places. -/
def Tree.ofSymbols? (symbols : List (Option Char)) : Option Tree :=
  (tokens? symbols).bind Tree.ofTokens?

def Tree.ofText? (text : List Char) : Option Tree := Tree.ofSymbols? (text.map some)

def Tree.ofBytes? (bytes : List UInt8) : Option Tree := Tree.ofSymbols? (Utf8.symbols bytes)

/-- The text of a string, if all of it stands for characters: no part is broken, and surrogates
come in pairs. -/
def pieceText? : List Piece → Option (List Char)
  | [] => some []
  | .char c :: rest => (pieceText? rest).map (c :: ·)
  | .surrogate high :: .surrogate low :: rest =>
    if high < 0xDC00 && 0xDC00 ≤ low then
      (pieceText? rest).map (Char.ofNat (0x10000 + (high - 0xD800) * 0x400 + (low - 0xDC00)) :: ·)
    else none
  | .surrogate _ :: _ => none
  | .broken :: _ => none

/-- The tree of a string. -/
def Tree.ofChars (text : List Char) : Tree := .text (text.map Piece.char)

/-- The field with its key. -/
def field (key : String) (tree : Tree) : List Piece × Tree := (key.toList.map Piece.char, tree)

end InferenceBench.Json
