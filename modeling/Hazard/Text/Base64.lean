/-!
Octets written with sixty-four characters, four characters for three octets.
-/

namespace Hazard.Text

/-- The value of a character among sixty-four. -/
def sextet? (c : Char) : Option Nat :=
  if 'A' ≤ c && c ≤ 'Z' then some (c.toNat - 65)
  else if 'a' ≤ c && c ≤ 'z' then some (c.toNat - 71)
  else if c.isDigit then some (c.toNat + 4)
  else if c == '+' then some 62
  else if c == '/' then some 63
  else none

/-- Octets written with sixty-four characters. Other characters do not count, and the filling ends
the octets; `held` are the sextets of a group that is not full, the last one first. -/
def octetsAfter : List Nat → Nat → List Char → Option (List UInt8)
  | held, _, [] => if held.isEmpty then some [] else none
  | held, filled, c :: rest =>
    if c == '=' then
      match held with
      | [b, a] =>
        if filled == 1 then some [(a * 4 + b / 16).toUInt8] else octetsAfter held (filled + 1) rest
      | [e, b, a] => some [(a * 4 + b / 16).toUInt8, (b % 16 * 16 + e / 4).toUInt8]
      | _ => octetsAfter held filled rest
    else match sextet? c with
      | none => octetsAfter held filled rest
      | some n =>
        match held with
        | [e, b, a] =>
          (octetsAfter [] 0 rest).map fun more =>
            (a * 4 + b / 16).toUInt8 :: (b % 16 * 16 + e / 4).toUInt8 ::
              (e % 4 * 64 + n).toUInt8 :: more
        | _ => octetsAfter (n :: held) 0 rest

/-- The octets of a text, which must be plain ASCII. -/
def octets? (text : List Char) : Option (List UInt8) :=
  if text.all fun c => c.toNat < 128 then octetsAfter [] 0 text else none

end Hazard.Text
