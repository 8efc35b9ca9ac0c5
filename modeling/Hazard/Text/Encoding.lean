/-!
Texts and the octets that write them in UTF-8. Reading is strict or leaves out what is malformed, and
the three usual ends of a line can be made one.
-/

namespace Hazard.Text

/-- The six bits of an octet that continues a character. -/
def continuation? (octet : UInt8) : Option Nat :=
  if 0x80 ≤ octet && octet < 0xc0 then some (octet.toNat - 0x80) else none

/-- The character with a code, if the code is one and is not less than `least`. -/
def charFrom? (least code : Nat) : Option Char :=
  if least ≤ code && code.isValidChar then some (Char.ofNat code) else none

/-- The character that the first octets write, in the shortest form. -/
def leadingChar? : List UInt8 → Option Char
  | [] => none
  | first :: rest =>
    let lead := first.toNat
    if lead < 0x80 then some (Char.ofNat lead)
    else if lead < 0xc0 then none
    else if lead < 0xe0 then
      match rest with
      | b :: _ => do
        let low ← continuation? b
        charFrom? 0x80 ((lead - 0xc0) * 64 + low)
      | [] => none
    else if lead < 0xf0 then
      match rest with
      | b :: c :: _ => do
        let middle ← continuation? b
        let low ← continuation? c
        charFrom? 0x800 (((lead - 0xe0) * 64 + middle) * 64 + low)
      | _ => none
    else if lead < 0xf8 then
      match rest with
      | b :: c :: d :: _ => do
        let high ← continuation? b
        let middle ← continuation? c
        let low ← continuation? d
        charFrom? 0x10000 ((((lead - 0xf0) * 64 + high) * 64 + middle) * 64 + low)
      | _ => none
    else none

/-- The characters of octets, after `skip` octets that belong to a character already read. -/
def decodeFrom? (skip : Nat) : List UInt8 → Option (List Char)
  | [] => some []
  | octet :: rest =>
    match skip with
    | further + 1 => decodeFrom? further rest
    | 0 => do
      let c ← leadingChar? (octet :: rest)
      let more ← decodeFrom? (c.utf8Size - 1) rest
      pure (c :: more)

/-- The characters of octets, unless some are malformed. -/
def decode? (octets : List UInt8) : Option (List Char) := decodeFrom? 0 octets

/-- The characters of octets without the malformed ones, after `skip` octets that are read. -/
def decodeSomeFrom (skip : Nat) : List UInt8 → List Char
  | [] => []
  | octet :: rest =>
    match skip with
    | further + 1 => decodeSomeFrom further rest
    | 0 =>
      match leadingChar? (octet :: rest) with
      | some c => c :: decodeSomeFrom (c.utf8Size - 1) rest
      | none => decodeSomeFrom 0 rest

/-- The characters of octets; malformed octets are left out. -/
def decodeSome (octets : List UInt8) : List Char := decodeSomeFrom 0 octets

/-- The octets of a text. -/
def encode (text : List Char) : List UInt8 := (String.ofList text).toUTF8.toList

/-- The text with one kind of line end: carriage returns, alone or before a line feed, become line
feeds. -/
def uniformLineEnds : List Char → List Char
  | [] => []
  | '\r' :: '\n' :: rest => '\n' :: uniformLineEnds rest
  | c :: rest => (if c == '\r' then '\n' else c) :: uniformLineEnds rest

end Hazard.Text
