import Hazard.Text.WordTable

/-!
Character classes over all of Unicode: blanks, word characters and decimal digits. Texts are lists of
characters throughout the library, so that counting, cutting and searching are list operations.
-/

namespace Hazard.Text

/-- The code point lies in one of the inclusive ranges. -/
def inRanges (ranges : List (Nat × Nat)) (code : Nat) : Bool :=
  ranges.any fun range => range.1 ≤ code && code ≤ range.2

/-- Blanks: the separators, the line ends and the control characters that stand for them. -/
def blankRanges : List (Nat × Nat) :=
  [(0x9, 0xd), (0x1c, 0x20), (0x85, 0x85), (0xa0, 0xa0), (0x1680, 0x1680), (0x2000, 0x200a),
    (0x2028, 0x2029), (0x202f, 0x202f), (0x205f, 0x205f), (0x3000, 0x3000)]

/-- The character separates words. -/
def isBlank (c : Char) : Bool := inRanges blankRanges c.toNat

/-- The six blanks of ASCII text. -/
def isPlainBlank (c : Char) : Bool := c.toNat == 0x20 || (0x9 ≤ c.toNat && c.toNat ≤ 0xd)

/-- Letters, digits and numerals of any script. -/
def isAlphanumeric (c : Char) : Bool :=
  if c.toNat < 0x80 then c.isAlphanum else inRanges alphanumericRanges c.toNat

/-- A word character is a letter, a digit, a numeral or the underscore. -/
def isWord (c : Char) : Bool := c == '_' || isAlphanumeric c

/-- The value of a decimal digit of any script. -/
def decimalValue? (c : Char) : Option Nat :=
  (decimalBlocks.find? fun block => block.1 ≤ c.toNat && c.toNat ≤ block.2).map fun block =>
    (c.toNat - block.1) % 10

/-- The character is a decimal digit of some script. -/
def isDecimal (c : Char) : Bool := inRanges decimalBlocks c.toNat

/-- The text without the blanks at its start. -/
def stripLeft (text : List Char) : List Char := text.dropWhile isBlank

/-- The text without the blanks at its end. -/
def stripRight (text : List Char) : List Char := (text.reverse.dropWhile isBlank).reverse

/-- The text without the blanks at either end. -/
def strip (text : List Char) : List Char := stripRight (stripLeft text)

end Hazard.Text
