import Hazard.Regex.Match

/-!
What a scalar without quotes and without a tag is: the forms of truth values, numbers, dates, the
absent value and the two special keys. Anything else is a text.
-/

namespace Hazard.Yaml

/-- What a value is. -/
inductive Tag where
  | null
  | bool
  | int
  | float
  | timestamp
  | str
  | binary
  | seq
  | map
  | set
  | omap
  | pairs
  /-- The key that brings in other mappings. -/
  | merge
  /-- The key that stands for the value itself. -/
  | default
  | unknown
deriving DecidableEq, Repr

/-- What the names of tags start with. -/
def tagBase : String := "tag:yaml.org,2002:"

/-- The tags by name. -/
def tagNames : List (String × Tag) :=
  [("null", .null), ("bool", .bool), ("int", .int), ("float", .float), ("timestamp", .timestamp),
    ("str", .str), ("binary", .binary), ("seq", .seq), ("map", .map), ("set", .set),
    ("omap", .omap), ("pairs", .pairs), ("merge", .merge), ("value", .default)]

/-- The tag of a full name. -/
def Tag.ofName (name : String) : Tag :=
  ((tagNames.find? fun entry => tagBase ++ entry.1 == name).map (·.2)).getD .unknown

open Regex

/-- A plain digit. -/
def digit : Regex := oneOf .exact [span '0' '9']

/-- A sign, or none. -/
def sign : Regex := perhaps (oneOf .exact (members "-+"))

/-- Digits and underscores. -/
def digitsOrLines : Regex := oneOf .exact [span '0' '9', .one 95]

/-- A colon and up to two digits that are less than sixty. -/
def sixtieth : Regex :=
  concat [char .exact ':', perhaps (oneOf .exact [span '0' '5']), digit]

/-- An exponent with its sign. -/
def exponent : Regex :=
  perhaps (concat [oneOf .exact (members "eE"), oneOf .exact (members "-+"), many1 digit])

/-- A whole text of one of several forms. -/
def whole (forms : List Regex) : Regex := concat [.at .textStart, choice forms, .at .lastLineEnd]

/-- Truth values. -/
def boolForm : Regex :=
  whole (["yes", "Yes", "YES", "no", "No", "NO", "true", "True", "TRUE", "false", "False", "FALSE",
    "on", "On", "ON", "off", "Off", "OFF"].map (literal .exact))

/-- Decimals: with a point, in sixtieths with a point, infinite, or no number. -/
def floatForm : Regex :=
  whole
    [concat [sign, digit, many digitsOrLines, char .exact '.', many digitsOrLines, exponent],
      concat [char .exact '.', digit, many digitsOrLines, exponent],
      concat [sign, digit, many digitsOrLines, many1 sixtieth, char .exact '.', many digitsOrLines],
      concat [sign, char .exact '.', words .exact ["inf", "Inf", "INF"]],
      concat [char .exact '.', words .exact ["nan", "NaN", "NAN"]]]

/-- Integers: binary, octal, decimal, hexadecimal or in sixtieths. -/
def intForm : Regex :=
  whole
    [concat [sign, literal .exact "0b", many1 (oneOf .exact [span '0' '1', .one 95])],
      concat [sign, char .exact '0', many1 (oneOf .exact [span '0' '7', .one 95])],
      concat [sign, choice [char .exact '0', concat [oneOf .exact [span '1' '9'],
        many digitsOrLines]]],
      concat [sign, literal .exact "0x",
        many1 (oneOf .exact [span '0' '9', span 'a' 'f', span 'A' 'F', .one 95])],
      concat [sign, oneOf .exact [span '1' '9'], many digitsOrLines, many1 sixtieth]]

/-- The absent value. -/
def nullForm : Regex :=
  whole [char .exact '~', literal .exact "null", literal .exact "Null", literal .exact "NULL",
    .empty]

/-- A date alone. -/
def dateForm : Regex :=
  concat [digit, digit, digit, digit, char .exact '-', digit, digit, char .exact '-', digit, digit]

/-- A date alone, as a tag admits it: month and day may have one digit. The groups are those of a date
with a time of day. -/
def looseDateForm : Regex :=
  concat [.group 1 (concat [digit, digit, digit, digit]), char .exact '-',
    .group 2 (concat [digit, perhaps digit]), char .exact '-',
    .group 3 (concat [digit, perhaps digit])]

/-- Spaces and tabulators. -/
def gap : Regex := oneOf .exact [.one 32, .one 9]

/-- A date with a time of day. The groups are year, month, day, hour, minute, second, fraction, zone,
and the sign, the hours and the minutes of the zone. -/
def instantForm : Regex :=
  concat
    [.group 1 (concat [digit, digit, digit, digit]), char .exact '-',
      .group 2 (concat [digit, perhaps digit]), char .exact '-',
      .group 3 (concat [digit, perhaps digit]),
      choice [oneOf .exact (members "Tt"), many1 gap],
      .group 4 (concat [digit, perhaps digit]), char .exact ':',
      .group 5 (concat [digit, digit]), char .exact ':', .group 6 (concat [digit, digit]),
      perhaps (concat [char .exact '.', .group 7 (many digit)]),
      perhaps (concat [many gap, .group 8 (choice [char .exact 'Z',
        concat [.group 9 (oneOf .exact (members "-+")),
          .group 10 (concat [digit, perhaps digit]),
          perhaps (concat [char .exact ':', .group 11 (concat [digit, digit])])]])])]

/-- Dates, with a time of day or without. -/
def timestampForm : Regex := whole [dateForm, instantForm]

/-- The tag of a plain scalar. -/
def Tag.ofPlain (text : List Char) : Tag :=
  if (boolForm.matchStart text).isSome then .bool
  else if (floatForm.matchStart text).isSome then .float
  else if (intForm.matchStart text).isSome then .int
  else if text == "<<".toList then .merge
  else if (nullForm.matchStart text).isSome then .null
  else if (timestampForm.matchStart text).isSome then .timestamp
  else if text == ['='] then .default
  else .str

end Hazard.Yaml
