/-! # Taking texts apart

Splitting at characters and at the occurrences of another text. -/

namespace InferenceBench.Text

/-- The parts between the elements that `isMark` accepts, empty parts included. -/
def partsBy {α : Type} (isMark : α → Bool) : List α → List (List α)
  | [] => [[]]
  | a :: rest =>
    if isMark a then [] :: partsBy isMark rest
    else match partsBy isMark rest with
      | [] => [[a]]
      | part :: parts => (a :: part) :: parts

/-- The text before the first `mark`, and the text after it. -/
def splitAtChar? (mark : Char) : List Char → Option (List Char × List Char)
  | [] => none
  | c :: rest =>
    if c = mark then some ([], rest)
    else (splitAtChar? mark rest).map fun (before, after) => (c :: before, after)

/-- The text before the first occurrence of `needle`, and the text after it. -/
def splitFirst? (needle : List Char) : List Char → Option (List Char × List Char)
  | [] => if needle.isEmpty then some ([], []) else none
  | c :: rest =>
    match needle.isPrefixOf? (c :: rest) with
    | some after => some ([], after)
    | none => (splitFirst? needle rest).map fun (before, after) => (c :: before, after)

def contains (needle text : List Char) : Bool := (splitFirst? needle text).isSome

/-- The end of the text from the last occurrence of `needle` on. -/
def tailAtLast? (needle : List Char) : List Char → Option (List Char)
  | [] => if needle.isEmpty then some [] else none
  | c :: rest =>
    (tailAtLast? needle rest).or (if needle.isPrefixOf (c :: rest) then some (c :: rest) else none)

/-- The text without its trailing `mark`s. -/
def dropTrailing (mark : Char) (text : List Char) : List Char :=
  (text.reverse.dropWhile (· = mark)).reverse

/-- The texts with `mark` between each two of them. -/
def joinWith (mark : List Char) : List (List Char) → List Char
  | [] => []
  | [part] => part
  | part :: rest => part ++ mark ++ joinWith mark rest

end InferenceBench.Text
