import Hazard.Data.Value
import Hazard.Data.Yaml.Fault
import Hazard.Data.Yaml.Schema
import Hazard.Finding.Timestamp
import Hazard.Number.Literal
import Hazard.Text.Base64
import Hazard.Text.Case
import Hazard.Text.Slice

/-!
The values of scalars. A scalar that a form admits may still have no value, as a date of no calendar
has none, and a tag may be written in front of a text that its form does not admit.
-/

namespace Hazard.Yaml

/-! ### Numbers -/

/-- The mark after a zero that tells a base. -/
def baseMark? : Nat → Option Char
  | 2 => some 'b'
  | 8 => some 'o'
  | 16 => some 'x'
  | _ => none

/-- Digits without the mark of their base. -/
def withoutMark (base : Nat) : List Char → List Char
  | '0' :: mark :: digits =>
    if baseMark? base == some mark.toLower then digits else '0' :: mark :: digits
  | digits => digits

/-- An integer in a base, which may have a sign and blanks around it. -/
def integerIn (base : Nat) (text : List Char) : Except ReadError Int :=
  let plain := Numeral.trim (text.map Numeral.plainCharacter)
  let (negative, digits) := Numeral.takeSign plain
  match Numeral.natural? base (withoutMark base digits) with
  | some n =>
    if base == 10 && Numeral.digitLimit < digits.length then
      .error (.integerTooLong digits.length)
    else .ok (if negative then -(n : Int) else n)
  | none => .error (.integer base text)

/-- A sum in which every next part counts sixty times. -/
def sixties (parts : List Int) : Int := parts.foldl (fun sum part => 60 * sum + part) 0

/-- The integer of a text without underscores and sign. -/
def unsignedInteger (text : List Char) : Except ReadError Int :=
  match text with
  | [] => .error .emptyNumber
  | ['0'] => .ok 0
  | '0' :: 'b' :: digits => integerIn 2 digits
  | '0' :: 'x' :: digits => integerIn 16 digits
  | '0' :: _ => integerIn 8 text
  | _ =>
    if text.contains ':' then
      ((Text.splitOn ':' text).mapM (integerIn 10)).map sixties
    else integerIn 10 text

/-- The integer of a text. -/
def integer (text : List Char) : Except ReadError Int :=
  let joined := text.filter (· != '_')
  if joined.isEmpty then .error .emptyNumber
  else
    let (negative, magnitude) := Numeral.takeSign joined
    (unsignedInteger magnitude).map fun n => if negative then -n else n

/-- A decimal without signs of infinity. -/
def plainDecimal (text : List Char) : Except ReadError Binary64 :=
  match Numeral.real? (text.map Numeral.plainCharacter) with
  | some x => .ok x
  | none => .error (.decimal text)

/-- A sum of decimals in which every earlier part counts sixty times; the last part comes first. What a
part counts is a decimal itself, which must be finite. -/
def decimalSixties (factor : Nat) (sum : Binary64) :
    List Binary64 → Except ReadError Binary64
  | [] => .ok sum
  | part :: rest =>
    match (Binary64.ofInt factor).toInt? with
    | some rounded => decimalSixties (60 * factor) (sum.add (part.times rounded.toNat)) rest
    | none => .error .decimalTooLarge

/-- The decimal of a text without underscores and sign. -/
def unsignedDecimal (text : List Char) : Except ReadError Binary64 :=
  if text == ".inf".toList then .ok (.infinite false)
  else if text == ".nan".toList then .ok .nan
  else if text.contains ':' then
    ((Text.splitOn ':' text).mapM plainDecimal).bind fun parts =>
      decimalSixties 1 .zero parts.reverse
  else plainDecimal text

/-- The decimal of a text. -/
def decimal (text : List Char) : Except ReadError Binary64 :=
  let joined := Text.lower (text.filter (· != '_'))
  if joined.isEmpty then .error .emptyNumber
  else
    let (negative, magnitude) := Numeral.takeSign joined
    (unsignedDecimal magnitude).map fun x => if negative then x.negated else x

/-! ### Truth values -/

/-- The truth value of a word. -/
def truth (text : List Char) : Except ReadError Bool :=
  let word := String.ofList (Text.lower text)
  if ["yes", "true", "on"].contains word then .ok true
  else if ["no", "false", "off"].contains word then .ok false
  else .error (.truth (Text.lower text))

/-! ### Dates -/

/-- A calendar has the date. -/
def checkDate (year month day : Nat) : Except ReadError Unit :=
  if year == 0 then .error (.date (.year year))
  else if month == 0 || 12 < month then .error (.date .month)
  else if day == 0 || Timestamp.daysInMonth year month < day then .error (.date .day)
  else .ok ()

/-- A day has the time. -/
def checkTime (hour minute second : Nat) : Except ReadError Unit :=
  if 23 < hour then .error (.date .hour)
  else if 59 < minute then .error (.date .minute)
  else if 59 < second then .error (.date .second)
  else .ok ()

/-- A date, with or without a time of day. -/
def timestamp (text : List Char) : Except ReadError Scalar :=
  match (whole [looseDateForm, instantForm]).matchStart text with
  | none => .error .dateForm
  | some found => do
    let number (group : Nat) : Nat := (Numeral.natural? 10 (found.group group)).getD 0
    if (found.group 4).isEmpty then
      checkDate (number 1) (number 2) (number 3)
      pure (.date (String.ofList text))
    else
      let minutes : Int := 60 * number 10 + number 11
      if 1440 ≤ minutes then
        .error (.date (.zone (if found.group 9 == ['-'] then -minutes else minutes)))
      else
        checkDate (number 1) (number 2) (number 3)
        checkTime (number 4) (number 5) (number 6)
        pure (.instant (String.ofList text))

/-- The value of a scalar by its tag. -/
def scalarValue (tag : Tag) (text : List Char) : Except ReadError Scalar :=
  match tag with
  | .null => .ok .null
  | .bool => (truth text).map .bool
  | .int => (integer text).map .int
  | .float => (decimal text).map .float
  | .timestamp => timestamp text
  | .str => .ok (.str (String.ofList text))
  | .binary =>
    match Text.octets? text with
    | some octets => .ok (.bytes octets)
    | none => .error .malformed
  | _ => .error .malformed

end Hazard.Yaml
