import InferenceBench.Text.Composition
import InferenceBench.Url.Folding
import InferenceBench.Url.Joiner
import InferenceBench.Url.Punycode

/-! # Labels

The parts of a domain between its points. A label that is not ASCII is written in Punycode after
the mark `xn--`; a label with this mark stands for what it spells. What it spells must need no
folding, so that no label has two written forms. -/

namespace InferenceBench.Url

/-- How many characters a label beyond ASCII may have. -/
def labelLimit : Nat := 1000

/-- How many characters may follow the mark of Punycode. -/
def punycodeLimit : Nat := 2000

def punycodeMark : List Char := "xn--".toList

structure Label where
  /-- The characters that are meant. -/
  characters : List Char
  /-- The characters as they are written in ASCII. -/
  written : List Char
  deriving Repr, DecidableEq

namespace Label

/-- Whether folded characters make a label: no mark comes first, joiners stand only where they
fit, and the label is not too long. -/
def isValid (characters : List Char) : Bool :=
  !characters.head?.any Text.isMark && joinersFit [] characters &&
    (characters.all Punycode.isAscii || characters.length ≤ labelLimit)

/-- The label that is spelled by what follows the mark of Punycode. -/
def ofPunycode? (text : List Char) : Option Label :=
  if text.length ≤ punycodeLimit && text.all Punycode.isAscii && text.getLast?.any (· ≠ '-') then
    match Punycode.decode? text with
    | some characters =>
      if characters.all (fun c => folded? c = some [c]) &&
          Text.composed characters = characters && isValid characters then
        some ⟨characters, punycodeMark ++ text⟩
      else none
    | none => none
  else none

/-- The label of folded and composed characters. -/
def ofFolded? (characters : List Char) : Option Label :=
  match punycodeMark.isPrefixOf? characters with
  | some text => ofPunycode? text
  | none =>
    if isValid characters then
      some
        { characters
          written :=
            if characters.all Punycode.isAscii then characters
            else punycodeMark ++ Punycode.encode characters }
    else none

end Label

end InferenceBench.Url
