/-!
Binary floating-point numbers of 64 bits, as exact values: a sign, a significand below 2^53 and a
power of two. Ratios and decimals are rounded to the nearest such number, a tie to the even one, in
exact integer arithmetic.
-/

namespace Hazard

/-- A number that fits 64 bits: `± significand · 2 ^ exponent`, an infinity, or no number. -/
inductive Binary64 where
  | nan
  | infinite (negative : Bool)
  | finite (negative : Bool) (significand : Nat) (exponent : Int)
deriving DecidableEq, Repr

namespace Binary64

/-- The least exponent; smaller magnitudes have fewer significant bits. -/
def leastExponent : Int := -1074

/-- The greatest exponent of a finite number. -/
def greatestExponent : Int := 971

/-- Zero. -/
def zero : Binary64 := .finite false 0 leastExponent

/-- The value is in the one form that its magnitude has. -/
def IsCanonical : Binary64 → Prop
  | .nan => True
  | .infinite _ => True
  | .finite _ significand exponent =>
    significand < Nat.pow 2 53 ∧ leastExponent ≤ exponent ∧ exponent ≤ greatestExponent ∧
      (Nat.pow 2 52 ≤ significand ∨ exponent = leastExponent)

/-- The quotient rounded to the nearest integer, a tie to the even one. -/
def divideToEven (numerator denominator : Nat) : Nat :=
  let quotient := numerator / denominator
  let twice := 2 * (numerator % denominator)
  if denominator < twice || (twice == denominator && quotient % 2 == 1) then quotient + 1
  else quotient

/-- The exponent of the greatest power of two that is at most the ratio. -/
def floorLog2 (numerator denominator : Nat) : Int :=
  let guess : Int := (numerator.log2 : Int) - denominator.log2
  if denominator * Nat.pow 2 guess.toNat ≤ numerator * Nat.pow 2 (-guess).toNat then guess
  else guess - 1

/-- The number nearest to a ratio. -/
def ofRatio (negative : Bool) (numerator denominator : Nat) : Binary64 :=
  if numerator == 0 then .finite negative 0 leastExponent
  else
    let exponent := max leastExponent (floorLog2 numerator denominator - 52)
    let significand :=
      divideToEven (numerator * Nat.pow 2 (-exponent).toNat)
        (denominator * Nat.pow 2 exponent.toNat)
    let (significand, exponent) :=
      if significand == Nat.pow 2 53 then (Nat.pow 2 52, exponent + 1) else (significand, exponent)
    if greatestExponent < exponent then .infinite negative
    else .finite negative significand exponent

/-- The number nearest to `digits · 10 ^ power`. Powers far outside the range of finite numbers are
settled by the number of digits alone. -/
def ofDecimal (negative : Bool) (digits : Nat) (power : Int) : Binary64 :=
  let size : Int := (Nat.toDigits 10 digits).length + power
  if digits == 0 || size < -400 then .finite negative 0 leastExponent
  else if 400 < size then .infinite negative
  else ofRatio negative (digits * Nat.pow 10 power.toNat) (Nat.pow 10 (-power).toNat)

/-- The integer as a number of 64 bits. -/
def ofInt (value : Int) : Binary64 := ofRatio (value < 0) value.natAbs 1

/-- The magnitude of a finite number as a ratio. -/
def ratio (significand : Nat) (exponent : Int) : Nat × Nat :=
  (significand * Nat.pow 2 exponent.toNat, Nat.pow 2 (-exponent).toNat)

/-- Three-way comparison with an integer; there is none for what is no number. -/
def compareInt? (x : Binary64) (n : Int) : Option Ordering :=
  match x with
  | .nan => none
  | .infinite negative => some (if negative then .lt else .gt)
  | .finite negative significand exponent =>
    let (numerator, denominator) := ratio significand exponent
    let signed : Int := if negative then -(numerator : Int) else numerator
    some (compare signed (n * denominator))

/-- The number is at least the integer. -/
def geInt (x : Binary64) (n : Int) : Bool := (x.compareInt? n).any (· != .lt)

/-- The number is at most the integer. -/
def leInt (x : Binary64) (n : Int) : Bool := (x.compareInt? n).any (· != .gt)

/-- The number equals the integer. -/
def eqInt (x : Binary64) (n : Int) : Bool := x.compareInt? n == some .eq

/-- The value of a finite number that is whole. -/
def toInt? : Binary64 → Option Int
  | .finite negative significand exponent =>
    let (numerator, denominator) := ratio significand exponent
    if numerator % denominator == 0 then
      let magnitude : Int := ↑(numerator / denominator)
      some (if negative then -magnitude else magnitude)
    else none
  | _ => none

/-- The rounded sum. -/
def add : Binary64 → Binary64 → Binary64
  | .nan, _ => .nan
  | _, .nan => .nan
  | .infinite a, .infinite b => if a == b then .infinite a else .nan
  | .infinite a, _ => .infinite a
  | _, .infinite b => .infinite b
  | .finite n m e, .finite n' m' e' =>
    let low := min e e'
    let signed (negative : Bool) (significand : Nat) (exponent : Int) : Int :=
      let magnitude : Int := ↑(significand * Nat.pow 2 (exponent - low).toNat)
      if negative then -magnitude else magnitude
    let sum := signed n m e + signed n' m' e'
    if sum == 0 then .finite (n && n') 0 leastExponent
    else
      let (numerator, denominator) := ratio sum.natAbs low
      ofRatio (sum < 0) numerator denominator

/-- The rounded product with a natural number. -/
def times (x : Binary64) (factor : Nat) : Binary64 :=
  match x with
  | .finite negative significand exponent =>
    let (numerator, denominator) := ratio significand exponent
    ofRatio negative (numerator * factor) denominator
  | other => other

/-- The number with the other sign. -/
def negated : Binary64 → Binary64
  | .finite negative significand exponent => .finite (!negative) significand exponent
  | .infinite negative => .infinite (!negative)
  | .nan => .nan

end Binary64

end Hazard
