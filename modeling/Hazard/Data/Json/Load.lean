import Hazard.Data.Json.Reader

/-!
What stops a reader of JSON. One reader tells what stops it: a text that is no JSON, an integer with
too many digits, or values nested too deeply. It reads from left to right, so an integer or a nesting
counts only if everything before it is in order; what follows it does not matter. Another reader
refuses a text with a long number as a whole.
-/

namespace Hazard.Json

/-- What may come next. -/
inductive Expected where
  | value
  /-- A value, or the end of a list that was just begun. -/
  | firstItem
  | key
  /-- A key, or the end of a mapping that was just begun. -/
  | firstKey
  | colon
  /-- A comma, or the end of what is open. -/
  | separator
deriving DecidableEq, Repr

/-- What can be open. -/
inductive Opening where
  | list
  | map
deriving DecidableEq, Repr

/-- How far a text has been read. -/
structure Reading where
  expected : Expected
  /-- What has been begun and not ended, the innermost first. -/
  openings : List Opening
deriving DecidableEq, Repr

namespace Reading

/-- Nothing has been read. -/
def start : Reading := ⟨.value, []⟩

/-- The reading after the first token of a value. -/
def begin (reading : Reading) : Token → Option Reading
  | .scalar _ => some { reading with expected := .separator }
  | .broken _ => some { reading with expected := .separator }
  | .openList => some ⟨.firstItem, .list :: reading.openings⟩
  | .openMap => some ⟨.firstKey, .map :: reading.openings⟩
  | _ => none

/-- The reading after the end of what is open. -/
def close (reading : Reading) : Token → Option Reading
  | .closeList =>
    match reading.openings with
    | .list :: outer => some ⟨.separator, outer⟩
    | _ => none
  | .closeMap =>
    match reading.openings with
    | .map :: outer => some ⟨.separator, outer⟩
    | _ => none
  | _ => none

/-- The reading after a comma. -/
def next (reading : Reading) : Option Reading :=
  match reading.openings with
  | .list :: _ => some { reading with expected := .value }
  | .map :: _ => some { reading with expected := .key }
  | [] => none

/-- The reading after one more token, unless the token is out of place. -/
def advance (reading : Reading) (token : Token) : Option Reading :=
  match reading.expected, token with
  | .value, token => reading.begin token
  | .firstItem, .closeList => reading.close token
  | .firstItem, token => reading.begin token
  | .key, .scalar (.str _) => some { reading with expected := .colon }
  | .key, .broken _ => some { reading with expected := .colon }
  | .firstKey, .scalar (.str _) => some { reading with expected := .colon }
  | .firstKey, .broken _ => some { reading with expected := .colon }
  | .firstKey, .closeMap => reading.close token
  | .colon, .colon => some { reading with expected := .value }
  | .separator, .comma => reading.next
  | .separator, token => reading.close token
  | _, _ => none

end Reading

/-- The number of digits of a token that is an integer with too many. -/
def overlongDigits? : Token → Option Nat
  | .scalar (.int n) =>
    if n.natAbs < Nat.pow 10 Numeral.digitLimit then none else some (Nat.toDigits 10 n.natAbs).length
  | _ => none

/-- Why a text has no value. -/
inductive LoadError where
  /-- The text is no JSON. -/
  | malformed
  /-- An integer has so many digits, which are too many. -/
  | overlong (digits : Nat)
  /-- Lists and mappings are nested too deeply. -/
  | tooDeep
deriving DecidableEq, Repr

/-- More is open than there is room for; `none` is room for all. -/
def Reading.exceeds (reading : Reading) (room : Option Nat) : Bool :=
  room.any (· < reading.openings.length)

/-- What stops a reading that has come so far, in at most so many steps; a token that is out of place
stops it, too, but not here. -/
def obstacleWithin (room : Option Nat) : Nat → Reading → List Char → Option LoadError
  | 0, _, _ => none
  | steps + 1, reading, text => do
    let (token, after) ← takeToken (text.dropWhile isSpace)
    let further ← reading.advance token
    match overlongDigits? token with
    | some digits => some (.overlong digits)
    | none => if further.exceeds room then some .tooDeep else obstacleWithin room steps further after

/-- What stops a reading of a text before it is clear whether the text is JSON. -/
def obstacle? (room : Option Nat) (text : List Char) : Option LoadError :=
  obstacleWithin room text.length .start text

/-- The token with a text in place of a broken one. -/
def Token.mended : Token → Token
  | .broken text => .scalar (.str text)
  | token => token

/-- Reads a JSON text; marks stand for halves of characters. So many lists and mappings may be nested
in one another. -/
def load (text : List Char) (room : Option Nat := none) : Except LoadError Value :=
  match obstacle? room text with
  | some fault => .error fault
  | none =>
    match (tokens? text).bind fun tokens => wholeValue? (tokens.map Token.mended) with
    | some value => .ok value
    | none => .error .malformed

/-- A number of the text has too many characters before its point; at most so many tokens are
looked at. -/
def longNumberWithin : Nat → List Char → Bool
  | 0, _ => false
  | steps + 1, text =>
    let start := text.dropWhile isSpace
    Numeral.digitLimit < Numeral.leadingLength start ||
      match takeToken start with
      | some (_, after) => longNumberWithin steps after
      | none => false

/-- A number of the text has too many characters before its point. -/
def hasLongNumber (text : List Char) : Bool := longNumberWithin text.length text

end Hazard.Json
