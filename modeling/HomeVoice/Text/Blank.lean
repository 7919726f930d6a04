import HomeVoice.Text.CodeRange
import HomeVoice.Text.Pieces

/-!
# Blank characters, trimming and words

The blanks are the twenty-five characters with the Unicode property White_Space.
-/

namespace HomeVoice.Text

/-- The property White_Space. -/
def blankTable : List CodeRange :=
  [(0x9, 0xD), (0x20, 0x20), (0x85, 0x85), (0xA0, 0xA0), (0x1680, 0x1680), (0x2000, 0x200A),
   (0x2028, 0x2029), (0x202F, 0x202F), (0x205F, 0x205F), (0x3000, 0x3000)]

def isBlank (c : Char) : Bool := inTable blankTable c

example : (blankTable.map fun range => range.2 + 1 - range.1).sum = 25 := by decide

/-- The text without its leading blanks. -/
def trimStart (text : List Char) : List Char := text.dropWhile isBlank

/-- The text without its leading and trailing blanks. -/
def trim (text : List Char) : List Char := ((trimStart text).reverse.dropWhile isBlank).reverse

/-- The words of a text: the maximal runs of characters that are not blank, in order. -/
def words (text : List Char) : List (List Char) := pieces isBlank text

example : words "  Living \t Room ".toList = ["Living".toList, "Room".toList] := by decide

end HomeVoice.Text
