import Hazard.Text.Quoted

/-!
What may be wrong with a YAML text. Only a malformed text is told as such; the other faults come up when a
part that is well formed has no value.
-/

namespace Hazard.Yaml

/-- What makes a date impossible. -/
inductive DateFault where
  | year (year : Nat)
  | month
  | day
  | hour
  | minute
  | second
  /-- The minutes between the zone and the common time are a day or more. -/
  | zone (minutes : Int)
deriving DecidableEq, Repr

/-- The length of a time, told in days and seconds that are not negative. -/
def DateFault.lengthText (minutes : Int) : String :=
  let days := Int.fdiv minutes 1440
  let seconds := 60 * Int.fmod minutes 1440
  let parts := (if days == 0 then [] else ["days=" ++ toString days]) ++
    (if seconds == 0 then [] else ["seconds=" ++ toString seconds])
  "datetime.timedelta(" ++ ", ".intercalate parts ++ ")"

/-- The words for an impossible date. -/
def DateFault.message : DateFault → String
  | .year n => "year " ++ toString n ++ " is out of range"
  | .month => "month must be in 1..12"
  | .day => "day is out of range for month"
  | .hour => "hour must be in 0..23"
  | .minute => "minute must be in 0..59"
  | .second => "second must be in 0..59"
  | .zone minutes =>
    "offset must be a timedelta strictly between -timedelta(hours=24) and timedelta(hours=24), not "
      ++ lengthText minutes

/-- Why a text has no value. -/
inductive ReadError where
  /-- The text is no YAML, or it has a node that no rule gives a value. -/
  | malformed
  /-- A number has no characters. -/
  | emptyNumber
  | integer (base : Nat) (text : List Char)
  /-- An integer has more digits than can be read. -/
  | integerTooLong (digits : Nat)
  | decimal (text : List Char)
  | truth (text : List Char)
  /-- What is marked as a date has not the form of one. -/
  | dateForm
  | date (fault : DateFault)
  /-- A decimal has so many sixtieths that the first of them count too much. -/
  | decimalTooLarge
  /-- A number in a quoted text is that of no character. -/
  | noCharacter (code : Nat)
  /-- Sequences and mappings are nested too deeply. -/
  | tooDeep
  /-- The octets are no text. -/
  | undecodable
deriving DecidableEq, Repr

/-- The words for a text without a value. -/
def ReadError.message : ReadError → String
  | .malformed => "malformed"
  | .emptyNumber => "string index out of range"
  | .integer base text =>
    "invalid literal for int() with base " ++ toString base ++ ": " ++
      String.ofList ((Text.quoted text).take 200)
  | .integerTooLong digits =>
    "Exceeds the limit (4300 digits) for integer string conversion: value has " ++
      toString digits ++ " digits; use sys.set_int_max_str_digits() to increase the limit"
  | .decimal text => "could not convert string to float: " ++ String.ofList (Text.quoted text)
  | .truth text => String.ofList (Text.quoted text)
  | .dateForm => "'NoneType' object has no attribute 'groupdict'"
  | .date fault => fault.message
  | .decimalTooLarge => "int too large to convert to float"
  | .noCharacter code =>
    if code < Nat.pow 2 31 then "chr() arg not in range(0x110000)"
    else "Python int too large to convert to C int"
  | .tooDeep => "maximum recursion depth exceeded"
  | .undecodable => "the file is not a text"

end Hazard.Yaml
