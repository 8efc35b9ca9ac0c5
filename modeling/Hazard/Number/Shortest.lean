import Hazard.Number.Binary64

/-!
The shortest decimal that reads back as a given number of 64 bits, and how it is written out. The
search asks the reader itself whether a decimal reads back, so writing and reading cannot disagree.
-/

namespace Hazard

/-- A decimal `digits · 10 ^ power`. -/
structure Decimal where
  digits : Nat
  power : Int
deriving DecidableEq, Repr

namespace Decimal

/-- Drops zeros at the end of the digits, at most `fuel` of them. -/
def dropZeros : Nat → Decimal → Decimal
  | 0, d => d
  | fuel + 1, d =>
    if d.digits != 0 && d.digits % 10 == 0 then dropZeros fuel ⟨d.digits / 10, d.power + 1⟩ else d

/-- The digits as characters. -/
def characters (d : Decimal) : List Char := Nat.toDigits 10 d.digits

end Decimal

namespace Binary64

/-- The exponent of the greatest power of ten that is at most the ratio. -/
def floorLog10 (numerator denominator : Nat) : Int :=
  let size (n : Nat) : Int := (Nat.toDigits 10 n).length
  let guess := size numerator - size denominator
  if denominator * Nat.pow 10 guess.toNat ≤ numerator * Nat.pow 10 (-guess).toNat then guess
  else guess - 1

/-- The decimals on either side of a ratio on the grid of `10 ^ power`, the nearer one first. -/
def neighbours (numerator denominator : Nat) (power : Int) : List Decimal :=
  let top := numerator * Nat.pow 10 (-power).toNat
  let bottom := denominator * Nat.pow 10 power.toNat
  let below := top / bottom
  let rest := 2 * (top % bottom)
  if rest < bottom || (rest == bottom && below % 2 == 0) then
    [⟨below, power⟩, ⟨below + 1, power⟩]
  else [⟨below + 1, power⟩, ⟨below, power⟩]

/-- The decimal reads back as the positive number. -/
def readsBack (significand : Nat) (exponent : Int) (d : Decimal) : Bool :=
  ofDecimal false d.digits d.power == .finite false significand exponent

/-- The decimal that equals the number. -/
def exactDecimal (significand : Nat) (exponent : Int) : Decimal :=
  if 0 ≤ exponent then ⟨significand * Nat.pow 2 exponent.toNat, 0⟩
  else ⟨significand * Nat.pow 5 (-exponent).toNat, exponent⟩

/-- The first decimal that reads back and whose last digit stands at the power, or at one of the
powers below it, of which `fuel` in all are tried. -/
def shortestFrom (significand : Nat) (exponent : Int) (numerator denominator : Nat) :
    Nat → Int → Option Decimal
  | 0, _ => none
  | fuel + 1, power =>
    match (neighbours numerator denominator power).find? (readsBack significand exponent) with
    | some d => some d
    | none => shortestFrom significand exponent numerator denominator fuel (power - 1)

/-- The decimal with the fewest digits that reads back as the positive number, and among those the
nearest; seventeen digits always suffice. -/
def shortest (significand : Nat) (exponent : Int) : Decimal :=
  let (numerator, denominator) := ratio significand exponent
  let found := shortestFrom significand exponent numerator denominator 17
    (floorLog10 numerator denominator)
  (found.getD (exactDecimal significand exponent)).dropZeros 400

/-- How numbers are written: for which places of the point the digits are written out, how many
digits an exponent has at least, whether a positive one has a sign, and the words for what has no
digits. -/
structure Style where
  leastPoint : Int
  greatestPoint : Int
  exponentWidth : Nat
  plusSign : Bool
  notANumber : String
  infinity : String
deriving DecidableEq, Repr

/-- Digits of an exponent, filled with zeros. -/
def exponentText (style : Style) (exponent : Int) : List Char :=
  let digits := Nat.toDigits 10 exponent.natAbs
  let sign := if exponent < 0 then ['-'] else if style.plusSign then ['+'] else []
  sign ++ List.replicate (style.exponentWidth - digits.length) '0' ++ digits

/-- A positive decimal in the given style; the point stands after `point` of its digits. -/
def decimalText (style : Style) (d : Decimal) : List Char :=
  let digits := d.characters
  let point : Int := digits.length + d.power
  if style.leastPoint ≤ point && point ≤ style.greatestPoint then
    if point ≤ 0 then '0' :: '.' :: List.replicate (-point).toNat '0' ++ digits
    else if digits.length ≤ point then
      digits ++ List.replicate (point - digits.length).toNat '0' ++ ['.', '0']
    else digits.take point.toNat ++ '.' :: digits.drop point.toNat
  else
    let mantissa := match digits with
      | [] => []
      | [d] => [d]
      | d :: rest => d :: '.' :: rest
    mantissa ++ 'e' :: exponentText style (point - 1)

/-- The shortest text of a number. -/
def format (style : Style) : Binary64 → String
  | .nan => style.notANumber
  | .infinite negative => (if negative then "-" else "") ++ style.infinity
  | .finite negative significand exponent =>
    let body :=
      if significand == 0 then "0.0"
      else String.ofList (decimalText style (shortest significand exponent))
    (if negative then "-" else "") ++ body

/-- Plain style: written out from 0.0001 up to sixteen digits before the point, exponents with a
sign and two digits. -/
def plainStyle : Style := ⟨-3, 16, 2, true, "nan", "inf"⟩

/-- Compact style: written out from 0.00001 up to sixteen digits before the point, exponents bare. -/
def compactStyle : Style := ⟨-4, 16, 1, false, "null", "null"⟩

end Binary64

end Hazard
