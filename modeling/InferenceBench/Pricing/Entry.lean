import InferenceBench.Text.Blank
import InferenceBench.Text.Lowercase

/-! # Entries of a pricing page

A pricing page is plain text. In it, a model is an entry: a key in quotes, a colon, and a block in
braces, which ends at the next closing brace. The block may declare under which name the model is
served. -/

namespace InferenceBench.Pricing

/-- An entry together with the text around its block. -/
structure Entry where
  key : List Char
  /-- The text before the block, from its end; the key comes first in it. -/
  backwards : List Char
  /-- The text after the brace that opens the block, up to the end of the page. -/
  rest : List Char
  deriving Repr, DecidableEq

namespace Entry

/-- The text before the block, so that the page is `before ++ block ++ after`. -/
def before (entry : Entry) : List Char := entry.backwards.reverse

/-- The block with its braces. -/
def block (entry : Entry) : List Char :=
  '\x7B' :: entry.rest.takeWhile (· ≠ '\x7D') ++ ['\x7D']

/-- The text after the block. -/
def after (entry : Entry) : List Char := (entry.rest.dropWhile (· ≠ '\x7D')).drop 1

end Entry

/-- The key that stands, in quotes and with a colon, at the end of a text; the text is given from
its end. -/
def keyBefore? (backwards : List Char) : Option (List Char) :=
  match backwards.dropWhile Text.isBlank with
  | ':' :: '"' :: rest =>
    match Text.splitAtChar? '"' rest with
    | some (key, _) => if key.isEmpty then none else some key.reverse
    | none => none
  | _ => none

/-- The entry whose block opens between the two texts, the first of which is given from its
end. -/
def entryAt? (backwards rest : List Char) : Option Entry :=
  match keyBefore? backwards with
  | some key => if rest.contains '\x7D' then some ⟨key, backwards, rest⟩ else none
  | none => none

/-- The entries of a page whose start, given from its end, has been passed. -/
def entriesAfter (backwards : List Char) : List Char → List Entry
  | [] => []
  | c :: rest =>
    (if c = '\x7B' then (entryAt? backwards rest).toList else []) ++
      entriesAfter (c :: backwards) rest

/-- The entries of a page in the order of their blocks. -/
def entries (page : List Char) : List Entry := entriesAfter [] page

/-- The texts that follow the occurrences of `needle`. -/
def followers (needle : List Char) : List Char → List (List Char)
  | [] => []
  | c :: rest => (needle.isPrefixOf? (c :: rest)).toList ++ followers needle rest

/-- Whether the block declares the name of a served model. -/
def Entry.declares (entry : Entry) (name : List Char) : Bool :=
  (followers "backendName:".toList entry.block).any fun rest =>
    ('"' :: name ++ ['"']).isPrefixOf (Text.trimStart rest)

/-- The text of the table of models, up to its first semicolon and without the brace before it. -/
def modelsText? (page : List Char) : Option (List Char) :=
  match Text.splitFirst? "const MODELS = \x7B".toList page with
  | none => none
  | some (_, rest) =>
    match Text.splitAtChar? ';' rest with
    | none => none
    | some (table, _) => if table.getLast? = some '\x7D' then some table.dropLast else none

/-- The words of a key that say which model it means: in lower case, split at dashes and white
space, and longer than two characters. -/
def keyWords (key : List Char) : List (List Char) :=
  (Text.words ((Text.lowercase key).map fun c => if c = '-' then ' ' else c)).filter (2 < ·.length)

/-- Whether all words of the key occur in the name, which is in lower case. -/
def Entry.resembles (entry : Entry) (lowerName : List Char) : Bool :=
  let words := keyWords entry.key
  !words.isEmpty && words.all (Text.contains · lowerName)

/-- The entry of a served model: the first one that declares its name, or else the first one in
the table of models that resembles it. -/
def findServed? (name page : List Char) : Option Entry :=
  match (entries page).find? (·.declares name) with
  | some entry => some entry
  | none =>
    (modelsText? page).bind fun table =>
      (entries table).find? (·.resembles (Text.lowercase name))

/-- The key of the entry of a served model. -/
def findKey? (name page : List Char) : Option (List Char) := (findServed? name page).map Entry.key

/-- The first entry with the key. -/
def entryFor? (key page : List Char) : Option Entry := (entries page).find? (·.key = key)

/-- The text of the first entry with the key, from the last place before its block where the key
stands in quotes. -/
def modelText? (key page : List Char) : Option (List Char) :=
  (entryFor? key page).bind fun entry =>
    (Text.tailAtLast? ('"' :: key ++ ['"']) entry.before).map (· ++ entry.block)

end InferenceBench.Pricing
