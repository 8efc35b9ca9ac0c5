import Hazard.Text.Class
import Hazard.Text.InvisibleTable

/-!
Texts in quotes, as messages show them: single quotes, unless the text has single quotes and no double
ones; what cannot be seen is shown by its number.
-/

namespace Hazard.Text

/-- The character has a visible shape. -/
def isVisible (c : Char) : Bool := !inRanges invisibleRanges c.toNat

/-- The last `width` hexadecimal digits of a number. -/
def hexDigits (width n : Nat) : List Char :=
  let digits := Nat.toDigits 16 n
  List.replicate (width - digits.length) '0' ++ digits

/-- A character between quotes. -/
def shownChar (quote c : Char) : List Char :=
  if c == quote || c == '\\' then ['\\', c]
  else if c == '\n' then ['\\', 'n']
  else if c == '\r' then ['\\', 'r']
  else if c == '\t' then ['\\', 't']
  else if isVisible c then [c]
  else if c.toNat < 0x100 then '\\' :: 'x' :: hexDigits 2 c.toNat
  else if c.toNat < 0x10000 then '\\' :: 'u' :: hexDigits 4 c.toNat
  else '\\' :: 'U' :: hexDigits 8 c.toNat

/-- The quote that goes around a text. -/
def quoteFor (text : List Char) : Char :=
  if text.contains '\'' && !text.contains '"' then '"' else '\''

/-- The text in quotes. -/
def quoted (text : List Char) : List Char :=
  let quote := quoteFor text
  quote :: text.flatMap (shownChar quote) ++ [quote]

/-- The text in quotes, as a string. -/
def quotedString (text : String) : String := String.ofList (quoted text.toList)

end Hazard.Text
