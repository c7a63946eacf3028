import InferenceBench.Text.Split

/-! # White space and words

The white space of the Unicode property `White_Space`, and the trimming and splitting that
follow it. Texts are lists of characters in every scanner of the library, so that each is a
plain recursion. -/

namespace InferenceBench.Text

/-- The characters with the Unicode property `White_Space`. -/
def isBlank (c : Char) : Bool :=
  let n := c.toNat
  (9 ≤ n && n ≤ 13) || n == 0x20 || n == 0x85 || n == 0xA0 || n == 0x1680 ||
    (0x2000 ≤ n && n ≤ 0x200A) || n == 0x2028 || n == 0x2029 || n == 0x202F || n == 0x205F ||
    n == 0x3000

def trimStart (text : List Char) : List Char := text.dropWhile isBlank

def trimEnd (text : List Char) : List Char := (text.reverse.dropWhile isBlank).reverse

def trim (text : List Char) : List Char := trimEnd (trimStart text)

/-- The maximal runs of characters that are not blank. -/
def words (text : List Char) : List (List Char) := (partsBy isBlank text).filter (!·.isEmpty)

end InferenceBench.Text
