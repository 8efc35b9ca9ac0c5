import Hazard.Number.Literal

/-!
Points in time: a date, a time of day and an offset from universal time, if it is known. Reading
accepts a date alone, a blank or a letter between date and time, and fractions of a second.
-/

namespace Hazard

/-- A date and a time of day, with the offset from universal time. -/
structure Timestamp where
  /-- The year. -/
  year : Nat
  /-- The month, from one. -/
  month : Nat
  /-- The day of the month, from one. -/
  day : Nat
  /-- The hour of the day. -/
  hour : Nat
  /-- The minute of the hour. -/
  minute : Nat
  /-- The second of the minute. -/
  second : Nat
  /-- The microsecond of the second. -/
  microsecond : Nat
  /-- The offset from universal time in microseconds, if it is known. -/
  offset : Option Int
deriving DecidableEq, Repr

namespace Timestamp

/-- The year has a twenty-ninth of February. -/
def isLeapYear (year : Nat) : Bool := year % 4 == 0 && (year % 100 != 0 || year % 400 == 0)

/-- Days of a month. -/
def daysInMonth (year month : Nat) : Nat :=
  if month == 2 then (if isLeapYear year then 29 else 28)
  else if [4, 6, 9, 11].contains month then 30 else 31

/-- The date exists. -/
def isDate (year month day : Nat) : Bool :=
  1 ≤ year && year ≤ 9999 && 1 ≤ month && month ≤ 12 && 1 ≤ day && day ≤ daysInMonth year month

/-- Exactly `count` plain digits in front, and the rest. -/
def digits? (count : Nat) (text : List Char) : Option (Nat × List Char) :=
  let front := text.take count
  if front.length == count && front.all Char.isDigit then
    (Numeral.natural? 10 front).map (·, text.drop count)
  else none

/-- The given character in front. -/
def expect? (c : Char) : List Char → Option (List Char)
  | [] => none
  | d :: rest => if c == d then some rest else none

/-- A date in front: four digits, two and two, with hyphens between. -/
def date? (text : List Char) : Option (Nat × Nat × Nat × List Char) := do
  let (year, text) ← digits? 4 text
  let (month, text) ← digits? 2 (← expect? '-' text)
  let (day, text) ← digits? 2 (← expect? '-' text)
  if isDate year month day then some (year, month, day, text) else none

/-- A fraction of a second in front: digits, of which the first six count. -/
def fraction? (text : List Char) : Option (Nat × List Char) :=
  let front := text.takeWhile Char.isDigit
  if front.isEmpty then none
  else
    let six := front.take 6
    (Numeral.natural? 10 (six ++ List.replicate (6 - six.length) '0')).map
      (·, text.drop front.length)

/-- Seconds and their fraction in front, both of which may be absent. -/
def seconds? (text : List Char) : Option (Nat × Nat × List Char) :=
  match text with
  | ':' :: rest => do
    let (second, text) ← digits? 2 rest
    if 59 < second then none
    else match text with
      | mark :: more =>
        if mark == '.' || mark == ',' then
          let (microsecond, text) ← fraction? more
          some (second, microsecond, text)
        else some (second, 0, text)
      | [] => some (second, 0, [])
  | _ => some (0, 0, text)

/-- Whole minutes of an offset after its sign, with or without a colon. -/
def offsetMinutes? (text : List Char) : Option Nat := do
  let (hours, text) ← digits? 2 text
  let text := match text with
    | ':' :: rest => rest
    | _ => text
  let (minutes, text) ← digits? 2 text
  if text.isEmpty && minutes ≤ 59 && hours ≤ 23 then some (hours * 60 + minutes) else none

/-- The microseconds of a minute. -/
def minuteLength : Nat := 60000000

/-- An offset that ends the text, or no offset. -/
def offset? : List Char → Option (Option Int)
  | [] => some none
  | ['Z'] => some (some 0)
  | ['z'] => some (some 0)
  | '+' :: rest => (offsetMinutes? rest).map fun n => some (n * minuteLength : Nat)
  | '-' :: rest => (offsetMinutes? rest).map fun n => some (-(n * minuteLength : Nat))
  | _ => none

/-- The date that many days after the first of January 1970. -/
def dateOfDays (days : Int) : Nat × Nat × Nat :=
  let shifted := days + 719468
  let era := shifted.fdiv 146097
  let dayOfEra := (shifted - era * 146097).toNat
  let yearOfEra := (dayOfEra - dayOfEra / 1460 + dayOfEra / 36524 - dayOfEra / 146096) / 365
  let dayOfYear := dayOfEra - (365 * yearOfEra + yearOfEra / 4 - yearOfEra / 100)
  let shiftedMonth := (5 * dayOfYear + 2) / 153
  let day := dayOfYear - (153 * shiftedMonth + 2) / 5 + 1
  let month := if shiftedMonth < 10 then shiftedMonth + 3 else shiftedMonth - 9
  let year := (yearOfEra + era * 400 + if month ≤ 2 then 1 else 0).toNat
  (year, month, day)

/-- Counts beyond this are taken as thousandths of a second. -/
def secondsLimit : Nat := 20000000000

/-- The point in time that many seconds, or thousandths of a second, after the start of 1970. Years
before 1600 and after 9999 are refused. -/
def ofUnix? (count : Int) (microseconds : Nat) : Option Timestamp :=
  let total : Int :=
    if secondsLimit < count.natAbs then count * 1000 + microseconds / 1000
    else count * 1000000 + microseconds
  let seconds := total.fdiv 1000000
  if seconds < -11676096000 || 253402300799 < seconds then none
  else
    let days := seconds.fdiv 86400
    let (year, month, day) := dateOfDays days
    let rest := (seconds - days * 86400).toNat
    some ⟨year, month, day, rest / 3600, rest / 60 % 60, rest % 60,
      (total - seconds * 1000000).toNat, some 0⟩

/-- A count of seconds, with a fraction or without. -/
def unixText? (text : List Char) : Option Timestamp :=
  let (negative, body) := Numeral.takeSign text
  let front := body.takeWhile Char.isDigit
  let signed (n : Nat) : Int := if negative then -(n : Int) else n
  match Numeral.natural? 10 front, body.dropWhile Char.isDigit with
  | some n, [] => ofUnix? (signed n) 0
  | some n, '.' :: more =>
    match fraction? more with
    | some (microsecond, []) => ofUnix? (signed n) microsecond
    | _ => none
  | _, _ => none

/-- Reads a date with a time of day and an offset, either of which may be absent. -/
def calendarText? (text : List Char) : Option Timestamp := do
  let (year, month, day, text) ← date? text
  match text with
  | [] => some ⟨year, month, day, 0, 0, 0, 0, none⟩
  | mark :: text =>
    if mark != 'T' && mark != 't' && mark != ' ' && mark != '_' then none
    else
      let (hour, text) ← digits? 2 text
      let (minute, text) ← digits? 2 (← expect? ':' text)
      let (second, microsecond, text) ← seconds? text
      let offset ← offset? text
      if hour ≤ 23 && minute ≤ 59 then
        some ⟨year, month, day, hour, minute, second, microsecond, offset⟩
      else none

/-- Reads a point in time. -/
def ofText? (text : List Char) : Option Timestamp := (calendarText? text).or (unixText? text)

/-- A number with zeros in front up to a width. -/
def padded (width n : Nat) : List Char :=
  let digits := Nat.toDigits 10 n
  List.replicate (width - digits.length) '0' ++ digits

/-- The number of whole seconds nearest to an offset, either way. -/
def nearestSeconds (offset : Int) : Nat := (offset.natAbs + 500000) / 1000000

/-- The text of an offset: a letter if it is next to nothing, and else hours and whole minutes. -/
def offsetText : Option Int → List Char
  | none => []
  | some offset =>
    let seconds := nearestSeconds offset
    if seconds == 0 then ['Z']
    else (if offset < 0 then '-' else '+') ::
      padded 2 (seconds / 3600) ++ ':' :: padded 2 (seconds / 60 % 60)

/-- Writes a point in time; a fraction of a second is written if there is one. -/
def toText (t : Timestamp) : List Char :=
  padded 4 t.year ++ '-' :: padded 2 t.month ++ '-' :: padded 2 t.day ++ 'T' ::
    padded 2 t.hour ++ ':' :: padded 2 t.minute ++ ':' :: padded 2 t.second ++
    (if t.microsecond == 0 then [] else '.' :: padded 6 t.microsecond) ++ offsetText t.offset

end Timestamp

end Hazard
