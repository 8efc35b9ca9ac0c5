import Hazard.Number.Shortest
import Hazard.Text.Class

/-!
Numeric literals: their values, whether such a value deserves a name, and how it is shown. A literal
is read as an integer if its text is one, and else as a decimal of 64 bits.
-/

namespace Hazard

/-- The value of a numeric literal. -/
inductive Numeral where
  | whole (value : Int)
  | real (value : Binary64)
deriving DecidableEq, Repr

namespace Numeral

/-- Texts of integers in base ten have at most this many digits, on reading and on showing. -/
def digitLimit : Nat := 4300

/-- Digits of other scripts become plain ones, blanks of other scripts become spaces, and other
characters beyond ASCII become one that no number holds. -/
def plainCharacter (c : Char) : Char :=
  if c.toNat < 0x7f then c
  else if Text.isBlank c then ' '
  else match Text.decimalValue? c with
    | some value => Char.ofNat (48 + value)
    | none => '?'

/-- The text without plain blanks at either end. -/
def trim (text : List Char) : List Char :=
  ((text.dropWhile Text.isPlainBlank).reverse.dropWhile Text.isPlainBlank).reverse

/-- A sign, if there is one, and what follows it; `true` is a minus. -/
def takeSign : List Char → Bool × List Char
  | '-' :: rest => (true, rest)
  | '+' :: rest => (false, rest)
  | text => (false, text)

/-- The value of a digit, where letters continue after nine. -/
def digitValue? (base : Nat) (c : Char) : Option Nat :=
  let value? :=
    if c.isDigit then some (c.toNat - 48)
    else if 'a' ≤ c && c ≤ 'f' then some (c.toNat - 87)
    else if 'A' ≤ c && c ≤ 'F' then some (c.toNat - 55)
    else none
  value?.filter (· < base)

/-- The natural number that one or more digits write. -/
def natural? (base : Nat) (text : List Char) : Option Nat :=
  if text.isEmpty then none
  else text.foldl (fun acc c => acc.bind fun n => (digitValue? base c).map (n * base + ·)) (some 0)

/-- How many digits of an integer a text starts with; nothing follows a zero. -/
def leadingDigits : List Char → Nat
  | '0' :: _ => 1
  | text => (text.takeWhile Char.isDigit).length

/-- How many characters of an integer a text starts with. -/
def leadingLength : List Char → Nat
  | '-' :: text => leadingDigits text + 1
  | text => leadingDigits text

/-- The magnitude of an integer: hexadecimal, octal or binary after its mark, else decimal, where a
leading zero is allowed for zero alone. -/
def magnitude? : List Char → Option Nat
  | '0' :: mark :: digits =>
    if mark == 'x' || mark == 'X' then natural? 16 digits
    else if mark == 'o' || mark == 'O' then natural? 8 digits
    else if mark == 'b' || mark == 'B' then natural? 2 digits
    else if digitLimit < digits.length + 2 then none
    else (natural? 10 (mark :: digits)).filter (· == 0)
  | digits => if digitLimit < digits.length then none else natural? 10 digits

/-- The integer that a text writes. -/
def integer? (text : List Char) : Option Int :=
  let (negative, digits) := takeSign (trim text)
  (magnitude? digits).map fun n => if negative then -(n : Int) else n

/-- An exponent part, which may be absent. -/
def exponent? : List Char → Option Int
  | [] => some 0
  | mark :: rest =>
    if mark == 'e' || mark == 'E' then
      let (negative, digits) := takeSign rest
      (natural? 10 digits).map fun n => if negative then -(n : Int) else n
    else none

/-- An unsigned decimal: digits, a point among them or not, and an exponent or not. -/
def decimal? (negative : Bool) (text : List Char) : Option Binary64 :=
  let front := text.takeWhile Char.isDigit
  let afterFront := text.dropWhile Char.isDigit
  let (back, rest) := match afterFront with
    | '.' :: more => (more.takeWhile Char.isDigit, more.dropWhile Char.isDigit)
    | _ => ([], afterFront)
  match natural? 10 (front ++ back), exponent? rest with
  | some digits, some power => some (.ofDecimal negative digits (power - back.length))
  | _, _ => none

/-- The number of 64 bits that a text writes, which may be an infinity or no number. -/
def real? (text : List Char) : Option Binary64 :=
  let (negative, body) := takeSign (trim text)
  let word := String.ofList (body.map Char.toLower)
  if word == "inf" || word == "infinity" then some (.infinite negative)
  else if word == "nan" then some .nan
  else decimal? negative body

/-- The value of a literal: separators and the mark of big integers do not count. -/
def ofLiteral? (text : List Char) : Option Numeral :=
  let joined := text.filter (· != '_')
  let body := if joined.getLast? == some 'n' then joined.dropLast else joined
  let plain := body.map plainCharacter
  match integer? plain with
  | some n => some (.whole n)
  | none => (real? plain).map .real

/-- The value equals the integer. -/
def isInt : Numeral → Int → Bool
  | .whole n, k => n == k
  | .real x, k => x.eqInt k

/-- The value is at least the integer. -/
def atLeast : Numeral → Int → Bool
  | .whole n, k => k ≤ n
  | .real x, k => x.geInt k

/-- The value is greater than the integer. -/
def exceeds : Numeral → Int → Bool
  | .whole n, k => k < n
  | .real x, k => x.compareInt? k == some .gt

/-- The value is less than the integer. -/
def isBelow : Numeral → Int → Bool
  | .whole n, k => n < k
  | .real x, k => x.compareInt? k == some .lt

/-- Between two and a hundred, the common logarithm rounded to 53 bits is whole: only of ten, of the
next number above it, and of the last number below a hundred. -/
def hasWholeLogarithm : Numeral → Bool
  | .whole n => n == 10
  | .real (.finite false significand exponent) =>
    let (numerator, denominator) := Binary64.ratio significand exponent
    (denominator * 10 ≤ numerator &&
        numerator * Nat.pow 2 49 ≤ denominator * (10 * Nat.pow 2 49 + 1)) ||
      denominator * (100 * Nat.pow 2 46 - 1) ≤ numerator * Nat.pow 2 46
  | .real _ => false

/-- Values that need no name. -/
def familiar : List Int := [0, 1, 2, -1, 100, 1000, 60, 24, 365]

/-- Round values of a hundred and more that need no name. -/
def round : List Int := [100, 1000, 10000]

/-- The value deserves a name. -/
def isMagic (value : Numeral) : Bool :=
  if familiar.any value.isInt then false
  else if value.exceeds 2 && value.isBelow 100 then !value.hasWholeLogarithm
  else value.atLeast 100 && !round.any value.isInt

/-- The text of an integer, unless it has too many digits. -/
def showInt? (n : Int) : Option String :=
  let digits := Nat.toDigits 10 n.natAbs
  if digitLimit < digits.length then none
  else some (String.ofList ((if n < 0 then ['-'] else []) ++ digits))

/-- The text of a value: a whole one without a point; an integer may have too many digits. -/
def show? : Numeral → Option String
  | .whole n => showInt? n
  | .real x =>
    match x.toInt? with
    | some n => showInt? n
    | none => some (x.format Binary64.plainStyle)

end Numeral

end Hazard
