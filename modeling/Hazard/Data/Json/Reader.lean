import Hazard.Data.Value
import Hazard.Number.Literal

/-!
Reading JSON. A text is cut into tokens, and a value is read off the tokens; either step may refuse.
Infinities and the word for no number are allowed, as most writers of JSON produce them. A quoted text
may hold half of a character, which no text has: a strict reader refuses it, and a lenient one puts a
mark in its place.
-/

namespace Hazard.Json

/-- The parts of a JSON text. -/
inductive Token where
  | openList
  | closeList
  | openMap
  | closeMap
  | comma
  | colon
  | scalar (value : Scalar)
  /-- A quoted text in which a mark stands for every half of a character. -/
  | broken (text : String)
deriving DecidableEq, Repr

/-- Characters that may stand between tokens. -/
def isSpace (c : Char) : Bool := c == ' ' || c == '\t' || c == '\n' || c == '\r'

/-- A part of a quoted text: a character, or the number of half of one. -/
inductive Piece where
  | char (c : Char)
  | unit (number : Nat)
deriving DecidableEq, Repr

/-- The character that follows a backslash, as what it stands for. -/
def escaped? : Char → Option Char
  | '"' => some '"'
  | '\\' => some '\\'
  | '/' => some '/'
  | 'b' => some '\x08'
  | 'f' => some '\x0c'
  | 'n' => some '\n'
  | 'r' => some '\r'
  | 't' => some '\t'
  | _ => none

/-- A quoted text after its opening quote, and what follows the closing one. -/
def pieces : List Char → Option (List Piece × List Char)
  | [] => none
  | '"' :: rest => some ([], rest)
  | '\\' :: 'u' :: a :: b :: c :: d :: rest => do
    let number ← Numeral.natural? 16 [a, b, c, d]
    let (more, after) ← pieces rest
    pure (.unit number :: more, after)
  | '\\' :: mark :: rest => do
    let c ← escaped? mark
    let (more, after) ← pieces rest
    pure (.char c :: more, after)
  | c :: rest =>
    if c.toNat < 32 || c == '\\' then none
    else do
      let (more, after) ← pieces rest
      pure (.char c :: more, after)

/-- The number begins a pair of halves. -/
def isHighHalf (number : Nat) : Bool := 0xd800 ≤ number && number < 0xdc00

/-- The number ends a pair of halves. -/
def isLowHalf (number : Nat) : Bool := 0xdc00 ≤ number && number < 0xe000

/-- Puts halves together; one that stands alone is refused. -/
def characters? : List Piece → Option (List Char)
  | [] => some []
  | .char c :: rest => (characters? rest).map (c :: ·)
  | [.unit number] =>
    if isHighHalf number || isLowHalf number then none else some [Char.ofNat number]
  | .unit number :: .unit next :: rest =>
    if isHighHalf number && isLowHalf next then
      (characters? rest).map
        (Char.ofNat (0x10000 + (number - 0xd800) * 0x400 + (next - 0xdc00)) :: ·)
    else if isHighHalf number || isLowHalf number then none
    else (characters? (.unit next :: rest)).map (Char.ofNat number :: ·)
  | .unit number :: .char c :: rest =>
    if isHighHalf number || isLowHalf number then none
    else (characters? (.char c :: rest)).map (Char.ofNat number :: ·)

/-- The character of a number, or the mark that stands for a half of one. -/
def characterOrMark (number : Nat) : Char :=
  if isHighHalf number || isLowHalf number then '\ufffd' else Char.ofNat number

/-- Puts halves together; a mark stands for one that is alone. -/
def mended : List Piece → List Char
  | [] => []
  | .char c :: rest => c :: mended rest
  | [.unit number] => [characterOrMark number]
  | .unit number :: .unit next :: rest =>
    if isHighHalf number && isLowHalf next then
      Char.ofNat (0x10000 + (number - 0xd800) * 0x400 + (next - 0xdc00)) :: mended rest
    else characterOrMark number :: mended (.unit next :: rest)
  | .unit number :: .char c :: rest => characterOrMark number :: mended (.char c :: rest)

/-- The longest part of a text that is a number after its sign: digits before a point, digits after
it with the point, and an exponent, the latter two perhaps empty. -/
structure NumberParts where
  whole : List Char
  fraction : List Char
  exponent : List Char
  after : List Char
deriving DecidableEq, Repr

/-- A point and at least one digit. -/
def takeFraction : List Char → List Char × List Char
  | '.' :: d :: rest =>
    if d.isDigit then ('.' :: d :: rest.takeWhile Char.isDigit, rest.dropWhile Char.isDigit)
    else ([], '.' :: d :: rest)
  | text => ([], text)

/-- The mark of an exponent, perhaps a sign, and at least one digit. -/
def takeExponent (text : List Char) : List Char × List Char :=
  match text with
  | mark :: rest =>
    if mark == 'e' || mark == 'E' then
      let sign := match rest with
        | '+' :: _ => ['+']
        | '-' :: _ => ['-']
        | _ => []
      let digits := rest.drop sign.length
      if digits.head?.any Char.isDigit then
        (mark :: sign ++ digits.takeWhile Char.isDigit, digits.dropWhile Char.isDigit)
      else ([], text)
    else ([], text)
  | [] => ([], [])

/-- Cuts a number without its sign off a text. -/
def numberParts? (text : List Char) : Option NumberParts :=
  let whole := match text with
    | '0' :: _ => ['0']
    | _ => text.takeWhile Char.isDigit
  if whole.isEmpty then none
  else
    let (fraction, rest) := takeFraction (text.drop whole.length)
    let (exponent, after) := takeExponent rest
    some ⟨whole, fraction, exponent, after⟩

/-- The value of a number: an integer without a fraction and an exponent. -/
def numberValue? (negative : Bool) (parts : NumberParts) : Option Scalar :=
  if parts.fraction.isEmpty && parts.exponent.isEmpty then
    (Numeral.natural? 10 parts.whole).map fun n => .int (if negative then -(n : Int) else n)
  else
    (Numeral.decimal? negative (parts.whole ++ parts.fraction ++ parts.exponent)).map .float

/-- The words that are values. -/
def wordValues : List (String × Scalar) :=
  [("null", .null), ("true", .bool true), ("false", .bool false), ("NaN", .float .nan),
    ("Infinity", .float (.infinite false)), ("-Infinity", .float (.infinite true))]

/-- A word or a number at the start of a text, and what follows. -/
def takeScalar (text : List Char) : Option (Scalar × List Char) :=
  match wordValues.find? fun entry => entry.1.toList.isPrefixOf text with
  | some (word, value) => some (value, text.drop word.toList.length)
  | none => do
    let (negative, digits) := match text with
      | '-' :: rest => (true, rest)
      | _ => (false, text)
    let parts ← numberParts? digits
    let value ← numberValue? negative parts
    pure (value, parts.after)

/-- The first token of a text that does not start with a space, and what follows. -/
def takeToken : List Char → Option (Token × List Char)
  | [] => none
  | '[' :: rest => some (.openList, rest)
  | ']' :: rest => some (.closeList, rest)
  | '\x7b' :: rest => some (.openMap, rest)
  | '\x7d' :: rest => some (.closeMap, rest)
  | ',' :: rest => some (.comma, rest)
  | ':' :: rest => some (.colon, rest)
  | '"' :: rest => do
    let (parts, after) ← pieces rest
    match characters? parts with
    | some text => pure (.scalar (.str (String.ofList text)), after)
    | none => pure (.broken (String.ofList (mended parts)), after)
  | text => (takeScalar text).map fun (value, rest) => (.scalar value, rest)

/-- The tokens of a text, which takes no more steps than it has characters. -/
def tokensWithin : Nat → List Char → Option (List Token)
  | 0, text => if (text.dropWhile isSpace).isEmpty then some [] else none
  | steps + 1, text =>
    match text.dropWhile isSpace with
    | [] => some []
    | c :: rest => do
      let (token, after) ← takeToken (c :: rest)
      let more ← tokensWithin steps after
      pure (token :: more)

/-- The tokens of a text. -/
def tokens? (text : List Char) : Option (List Token) := tokensWithin text.length text

mutual

/-- The value at the start of tokens, and what follows. -/
def takeValue : Nat → List Token → Option (Value × List Token)
  | 0, _ => none
  | _ + 1, .scalar value :: rest => some (.scalar value, rest)
  | _ + 1, .openList :: .closeList :: rest => some (.list [], rest)
  | steps + 1, .openList :: rest => do
    let (items, after) ← takeItems steps rest
    pure (.list items, after)
  | _ + 1, .openMap :: .closeMap :: rest => some (.map [], rest)
  | steps + 1, .openMap :: rest => do
    let (entries, after) ← takeEntries steps rest
    pure (.map (Value.ofEntries entries), after)
  | _ + 1, _ => none

/-- One or more values with commas between them, up to the end of their list. -/
def takeItems : Nat → List Token → Option (List Value × List Token)
  | 0, _ => none
  | steps + 1, tokens => do
    let (item, rest) ← takeValue steps tokens
    match rest with
    | .closeList :: after => pure ([item], after)
    | .comma :: more => do
      let (items, after) ← takeItems steps more
      pure (item :: items, after)
    | _ => none

/-- One or more entries with commas between them, up to the end of their mapping. -/
def takeEntries : Nat → List Token → Option (List (Scalar × Value) × List Token)
  | steps + 1, .scalar (.str key) :: .colon :: tokens => do
    let (value, rest) ← takeValue steps tokens
    match rest with
    | .closeMap :: after => pure ([(.str key, value)], after)
    | .comma :: more => do
      let (entries, after) ← takeEntries steps more
      pure ((.str key, value) :: entries, after)
    | _ => none
  | _, _ => none

end

/-- The value of tokens, of which none may be left. -/
def wholeValue? (tokens : List Token) : Option Value :=
  match takeValue (tokens.length + 1) tokens with
  | some (value, []) => some value
  | _ => none

/-- Reads a JSON text; halves of characters are refused. -/
def parse? (text : List Char) : Option Value := (tokens? text).bind wholeValue?

end Hazard.Json
