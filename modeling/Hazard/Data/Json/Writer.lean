import Hazard.Data.Value
import Hazard.Number.Literal
import Hazard.Number.Shortest

/-!
Writing JSON, on one line or with a line for every part. One writer shows any integer, another only
those that have not too many digits.
-/

namespace Hazard.Json

/-- How JSON is written: whether every part has a line of its own, whether characters beyond ASCII
are written by their numbers, and how decimals look. -/
structure Style where
  multiline : Bool
  asciiOnly : Bool
  decimals : Binary64.Style
deriving Repr

/-- A hexadecimal digit. -/
def hexDigit (n : Nat) : Char := if n < 10 then Char.ofNat (48 + n) else Char.ofNat (87 + n)

/-- A number of sixteen bits, written in a quoted text. -/
def escapedUnit (n : Nat) : List Char :=
  ['\\', 'u', hexDigit (n / 4096 % 16), hexDigit (n / 256 % 16), hexDigit (n / 16 % 16),
    hexDigit (n % 16)]

/-- A character by its number, in two halves beyond sixteen bits. -/
def escapedCode (code : Nat) : List Char :=
  if code < 0x10000 then escapedUnit code
  else escapedUnit (0xd800 + (code - 0x10000) / 0x400) ++
    escapedUnit (0xdc00 + (code - 0x10000) % 0x400)

/-- A character in a quoted text. -/
def escapedChar (asciiOnly : Bool) (c : Char) : List Char :=
  if c == '"' then ['\\', '"']
  else if c == '\\' then ['\\', '\\']
  else if c == '\n' then ['\\', 'n']
  else if c == '\r' then ['\\', 'r']
  else if c == '\t' then ['\\', 't']
  else if c == '\x08' then ['\\', 'b']
  else if c == '\x0c' then ['\\', 'f']
  else if c.toNat < 32 || (asciiOnly && 126 < c.toNat) then escapedCode c.toNat
  else [c]

/-- A quoted text. -/
def quoted (style : Style) (text : List Char) : List Char :=
  '"' :: text.flatMap (escapedChar style.asciiOnly) ++ ['"']

/-- The text of an integer. -/
def integer (n : Int) : List Char :=
  (if n < 0 then ['-'] else []) ++ Nat.toDigits 10 n.natAbs

/-- The text of a decimal. -/
def decimal (style : Style) : Binary64 → List Char
  | .nan => "NaN".toList
  | .infinite false => "Infinity".toList
  | .infinite true => "-Infinity".toList
  | x => (x.format style.decimals).toList

/-- A scalar; what JSON has no form for becomes a text. -/
def scalar (style : Style) : Scalar → List Char
  | .null => "null".toList
  | .bool true => "true".toList
  | .bool false => "false".toList
  | .int n => integer n
  | .float x => decimal style x
  | .str text => quoted style text.toList
  | .bytes octets => quoted style (octets.map fun octet => Char.ofNat octet.toNat)
  | .date text => quoted style text.toList
  | .instant text => quoted style text.toList
  | .recurring => "null".toList

/-- A key; all keys are texts. -/
def keyText (style : Style) : Scalar → List Char
  | .str text => quoted style text.toList
  | .null => quoted style (scalar style .null)
  | .bool value => quoted style (scalar style (.bool value))
  | .int n => quoted style (integer n)
  | .float x => quoted style (decimal style x)
  | key => scalar style key

/-- What begins a part at a depth. -/
def lineStart (style : Style) (depth : Nat) : List Char :=
  if style.multiline then '\n' :: List.replicate (2 * depth) ' ' else []

mutual

/-- The text of a value whose parts are indented below `depth`. -/
def valueText (style : Style) (depth : Nat) : Value → List Char
  | .scalar value => scalar style value
  | .list [] => ['[', ']']
  | .list (item :: items) =>
    ['['] ++ lineStart style (depth + 1) ++ valueText style (depth + 1) item ++
      itemsText style depth items ++ lineStart style depth ++ [']']
  | .map [] => ['\x7b', '\x7d']
  | .map ((key, value) :: entries) =>
    ['\x7b'] ++ lineStart style (depth + 1) ++ keyText style key ++ [':', ' '] ++
      valueText style (depth + 1) value ++ entriesText style depth entries ++
      lineStart style depth ++ ['\x7d']

/-- The items after the first one of a list. -/
def itemsText (style : Style) (depth : Nat) : List Value → List Char
  | [] => []
  | item :: items =>
    [','] ++ lineStart style (depth + 1) ++ valueText style (depth + 1) item ++
      itemsText style depth items

/-- The entries after the first one of a mapping. -/
def entriesText (style : Style) (depth : Nat) : List (Scalar × Value) → List Char
  | [] => []
  | (key, value) :: entries =>
    [','] ++ lineStart style (depth + 1) ++ keyText style key ++ [':', ' '] ++
      valueText style (depth + 1) value ++ entriesText style depth entries

end

/-- The text of a value. -/
def render (style : Style) (value : Value) : String := String.ofList (valueText style 0 value)

/-- The scalar can be shown: it is no integer with too many digits. -/
def scalarFits : Scalar → Bool
  | .int n => (Numeral.showInt? n).isSome
  | _ => true

mutual

/-- All scalars of a value can be shown. -/
def fits : Value → Bool
  | .scalar value => scalarFits value
  | .list items => itemsFit items
  | .map entries => entriesFit entries

/-- All scalars of items can be shown. -/
def itemsFit : List Value → Bool
  | [] => true
  | item :: items => fits item && itemsFit items

/-- All scalars of entries can be shown, those of the keys as well. -/
def entriesFit : List (Scalar × Value) → Bool
  | [] => true
  | (key, value) :: entries => scalarFits key && fits value && entriesFit entries

end

/-- The text of a value whose scalars can all be shown. -/
def dump? (style : Style) (value : Value) : Option String :=
  if fits value then some (render style value) else none

/-- One line, with all characters as they are. -/
def oneLine : Style := ⟨false, false, Binary64.plainStyle⟩

/-- A line for every part, with all characters as they are and decimals without needless exponents. -/
def readable : Style := ⟨true, false, Binary64.compactStyle⟩

/-- A line for every part, in ASCII. -/
def portable : Style := ⟨true, true, Binary64.plainStyle⟩

end Hazard.Json
