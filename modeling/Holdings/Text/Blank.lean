/-
# Blank characters

The characters that count as white space: the ASCII blanks, the separators of information and of
lines, and the spaces of every width.
-/
import Holdings.Text.Printable

namespace Holdings.Text

/-- The ranges of blank characters. -/
def blankRanges : List (Nat × Nat) := [
  (0x9, 0xd), (0x1c, 0x20), (0x85, 0x85), (0xa0, 0xa0), (0x1680, 0x1680), (0x2000, 0x200a),
  (0x2028, 0x2029), (0x202f, 0x202f), (0x205f, 0x205f), (0x3000, 0x3000)]

/-- Whether a character is white space. -/
def isBlank (c : Char) : Bool := inRanges blankRanges c.toNat

/-- Whether a character ends a line of a file. -/
def isLineEnd (c : Char) : Bool := c = '\n' || c = '\r'

/-- Whether a character is white space within a line. -/
def isInnerBlank (c : Char) : Bool := isBlank c && !isLineEnd c

/-- The text without the white space behind it. -/
def trimEnd (cs : List Char) : List Char := (cs.reverse.dropWhile isBlank).reverse

/-- A small letter for each capital one of the Latin alphabet. -/
def lowerAscii (s : String) : String := String.ofList (s.toList.map Char.toLower)

end Holdings.Text
