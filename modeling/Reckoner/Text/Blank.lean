import Reckoner.Text.CodeRange

namespace Reckoner.Text

/-!
# Blanks

*White space* is the Unicode property of that name. A *blank*, which trimming a
line of input removes, is white space or one of the four ASCII separators
U+001C to U+001F.
-/

/-- The characters with the White_Space property. -/
def whiteSpaceRanges : List CodeRange :=
  CodeRange.ofPairs [
    (0x9, 0xd), (0x20, 0x20), (0x85, 0x85), (0xa0, 0xa0), (0x1680, 0x1680),
    (0x2000, 0x200a), (0x2028, 0x2029), (0x202f, 0x202f), (0x205f, 0x205f),
    (0x3000, 0x3000)
  ]

/-- Whether a character is white space. -/
def isWhiteSpace
    (character : Char) :
    Bool :=
  CodeRange.covers whiteSpaceRanges character

/-- Whether a character is white space or an ASCII separator. -/
def isBlank
    (character : Char) :
    Bool :=
  isWhiteSpace character ||
    (0x1c ≤ character.toNat && character.toNat ≤ 0x1f)

/-- Remove the characters of a class at both ends of a text. -/
def trimBoth
    (inClass : Char → Bool)
    (text : List Char) :
    List Char :=
  ((text.dropWhile inClass).reverse.dropWhile inClass).reverse

end Reckoner.Text
