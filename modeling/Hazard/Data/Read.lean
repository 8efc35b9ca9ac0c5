import Hazard.Data.Issue
import Hazard.Data.Value
import Hazard.Number.Literal
import Hazard.Text.Case
import Hazard.Text.Encoding

/-!
Lenient reading of typed values: numbers may come as texts, truth values as numbers or words.
-/

namespace Hazard.Read

/-- The text of a scalar that is one, perhaps as octets. -/
def text? : Scalar → Option String
  | .str text => some text
  | .bytes octets => (Text.decode? octets).map String.ofList
  | _ => none

/-- A text. -/
def string : Value → Checked String
  | .scalar value =>
    match text? value with
    | some text => .ok text
    | none => Checked.issue .stringType
  | _ => Checked.issue .stringType

/-- One of several values that are known by name. -/
def named {α : Type} (ofName? : String → Option α) : Value → Checked α
  | .str text =>
    match ofName? text with
    | some value => .ok value
    | none => Checked.issue .enum
  | _ => Checked.issue .enum

/-- Words for yes, in lower case. -/
def yesWords : List String := ["1", "on", "t", "true", "y", "yes"]

/-- Words for no, in lower case. -/
def noWords : List String := ["0", "f", "false", "n", "no", "off"]

/-- The truth value of an integer. -/
def boolOfInt (n : Int) : Checked Bool :=
  if n == 1 then .ok true else if n == 0 then .ok false else Checked.issue .boolParsing

/-- A truth value. -/
def bool : Value → Checked Bool
  | .scalar (.bool value) => .ok value
  | .scalar (.int n) => boolOfInt n
  | .scalar (.float x) =>
    match x.toInt? with
    | some n => boolOfInt n
    | none => Checked.issue .boolType
  | .scalar value =>
    match text? value with
    | some text =>
      let word := String.ofList (text.toList.map Char.toLower)
      if yesWords.contains word then .ok true
      else if noWords.contains word then .ok false
      else Checked.issue .boolParsing
    | none => Checked.issue .boolType
  | _ => Checked.issue .boolType

/-- The text without its first zeros, among which underscores may stand; the last zero stays before a
point and at the end. -/
def withoutLeadingZeros (text : List Char) : Option (List Char) :=
  match text with
  | '0' :: rest =>
    match rest.dropWhile fun c => c == '0' || c == '_' with
    | [] => some [text.getLast?.getD '0']
    | '.' :: more =>
      let skipped := rest.takeWhile fun c => c == '0' || c == '_'
      some ((skipped.getLast?.getD '0') :: '.' :: more)
    | c :: more => if '1' ≤ c && c ≤ '9' then some (c :: more) else none
  | c :: _ => if c == '-' || ('1' ≤ c && c ≤ '9') then some text else none
  | [] => none

/-- The text without a point that only zeros follow. -/
def withoutZeroFraction (text : List Char) : List Char :=
  let front := text.takeWhile (· != '.')
  if (text.drop (front.length + 1)).all (· == '0') then front else text

/-- Two underscores stand side by side. -/
def hasDoubleUnderscore : List Char → Bool
  | '_' :: '_' :: _ => true
  | _ :: rest => hasDoubleUnderscore rest
  | [] => false

/-- The text without underscores between its characters. -/
def withoutUnderscores (text : List Char) : List Char :=
  if text.head? == some '_' || text.getLast? == some '_' || hasDoubleUnderscore text then text
  else text.filter (· != '_')

/-- An integer in its shortest form: no plus, no leading zeros. -/
def plainInteger (text : List Char) : Checked Int :=
  let (negative, digits) := match text with
    | '-' :: rest => (true, rest)
    | _ => (false, text)
  if Numeral.digitLimit < Numeral.leadingLength text then Checked.issue .intParsingSize
  else if digits.isEmpty || !digits.all Char.isDigit ||
      (digits.head? == some '0' && 1 < digits.length)
  then Checked.issue .intParsing
  else match Numeral.natural? 10 digits with
    | some n => .ok (if negative then -(n : Int) else n)
    | none => Checked.issue .intParsing

/-- The integer that a text writes, with blanks around it, a plus before it, zeros before and after
it and underscores in it. -/
def intOfText (text : List Char) : Checked Int :=
  let trimmed := Text.strip text
  let unsigned := match trimmed with
    | '+' :: rest => if rest.head? == some '-' || rest.head? == some '+' then [] else rest
    | _ => trimmed
  if Numeral.digitLimit < Numeral.leadingLength text then Checked.issue .intParsingSize
  else match withoutLeadingZeros unsigned with
    | some digits => plainInteger (withoutUnderscores (withoutZeroFraction digits))
    | none => Checked.issue .intParsing

/-- The integer that a decimal is. -/
def intOfFloat (x : Binary64) : Checked Int :=
  match x with
  | .finite _ _ _ =>
    match x.toInt? with
    | some n => if n.natAbs < Nat.pow 2 63 then .ok n else Checked.issue .intParsingSize
    | none => Checked.issue .intFromFloat
  | _ => Checked.issue .finiteNumber

/-- An integer. -/
def int : Value → Checked Int
  | .scalar (.bool value) => .ok (if value then 1 else 0)
  | .scalar (.int n) => .ok n
  | .scalar (.float x) => intOfFloat x
  | .scalar value =>
    match text? value with
    | some text => intOfText text.toList
    | none => Checked.issue .intType
  | _ => Checked.issue .intType

/-- A decimal of 64 bits. -/
def float : Value → Checked Binary64
  | .scalar (.bool value) => .ok (.ofInt (if value then 1 else 0))
  | .scalar (.int n) => .ok (.ofInt n)
  | .scalar (.float x) => .ok x
  | .scalar value =>
    match text? value with
    | some text =>
      match Numeral.real? (withoutUnderscores (Text.strip text.toList)) with
      | some x => .ok x
      | none => Checked.issue .floatParsing
    | none => Checked.issue .floatType
  | _ => Checked.issue .floatType

/-- The checks of the items of a list, each in its place. -/
def items {α : Type} (read : Value → Checked α) (values : List Value) : Checked (List α) :=
  Checked.all (values.mapIdx fun index value => (read value).within (.index index))

/-- A list. -/
def list {α : Type} (read : Value → Checked α) : Value → Checked (List α)
  | .list values => items read values
  | _ => Checked.issue .listType

/-- A list of fixed use, whose absence is told by another name. -/
def tuple {α : Type} (read : Value → Checked α) : Value → Checked (List α)
  | .list values => items read values
  | _ => Checked.issue .tupleType

/-- A value that may be absent. -/
def optional {α : Type} (read : Value → Checked α) : Value → Checked (Option α)
  | .null => .ok none
  | value => (read value).map some

/-- The step to the value of a key. -/
def placeOf : Scalar → Place
  | .str name => .key name
  | .int n => .index n
  | .bool value => .key (if value then "True" else "False")
  | .null => .key "None"
  | .float x => .key (x.format Binary64.plainStyle)
  | .bytes _ => .key "bytes"
  | .date text => .key text
  | .instant text => .key text
  | .recurring => .key "..."

/-- An entry of a mapping: a bad key is told before a bad value. -/
def entry {α β : Type} (readKey : Value → Checked α) (readValue : Value → Checked β)
    (key : Scalar) (value : Value) : Checked (α × β) :=
  let place := placeOf key
  Checked.start Prod.mk
    |>.both (((readKey (.scalar key)).within (.key "[key]")).within place)
    |>.both ((readValue value).within place)

/-- A mapping. -/
def map {α β : Type} (readKey : Value → Checked α) (readValue : Value → Checked β) :
    Value → Checked (List (α × β))
  | .map entries => Checked.all (entries.map fun (key, value) => entry readKey readValue key value)
  | _ => Checked.issue .dictType

/-- A part of a mapping under one of its names, the first of which wins; an absent one may have a
value of its own. -/
def field {α : Type} (names : List String) (read : Value → Checked α) (absent : Option α)
    (entries : List (Scalar × Value)) : Checked α :=
  match names.findSome? fun name => (Value.find? (.str name) entries).map (name, ·) with
  | some (name, value) => (read value).within (.key name)
  | none =>
    match absent, names with
    | some value, _ => .ok value
    | none, name :: _ => (Checked.issue .missing).within (.key name)
    | none, [] => Checked.issue .missing

end Hazard.Read
