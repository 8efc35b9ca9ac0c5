import Hazard.Text.Case

/-!
Regular expressions with captures, look-around and ordered choice, as trees whose leaves test one
character. Flags are resolved when an expression is built, so a tree means the same everywhere.
-/

namespace Hazard

/-- How two characters are compared: as they are, or ignoring case over ASCII or over Unicode. -/
inductive Fold where
  | exact
  | ascii
  | unicode
deriving DecidableEq, Repr

namespace Fold

/-- The representative of a character under the comparison. -/
def image : Fold → Char → Char
  | .exact, c => c
  | .ascii, c => c.toLower
  | .unicode, c => Text.lowerChar c

end Fold

/-- The named classes of characters. -/
inductive Category where
  | digit
  | blank
  | word
deriving DecidableEq, Repr

namespace Category

/-- Membership over all of Unicode. -/
def contains : Category → Char → Bool
  | .digit, c => Text.isDecimal c
  | .blank, c => Text.isBlank c
  | .word, c => Text.isWord c

/-- Membership over ASCII alone. -/
def containsAscii : Category → Char → Bool
  | .digit, c => c.isDigit
  | .blank, c => Text.isPlainBlank c
  | .word, c => c == '_' || c.isAlphanum

end Category

/-- A member of a bracketed class; code points need not be characters. -/
inductive ClassItem where
  | one (code : Nat)
  | range (low high : Nat)
  | category (kind : Category) (negated : Bool) (asciiOnly : Bool)
deriving DecidableEq, Repr

namespace ClassItem

/-- The code point, as a character under the comparison, agrees with `c`. -/
def oneAccepts (fold : Fold) (code : Nat) (c : Char) : Bool :=
  match fold with
  | .exact => c.toNat == code
  | .ascii => code.isValidChar && c.toLower == (Char.ofNat code).toLower
  | .unicode =>
    code.isValidChar &&
      let wanted := Text.lowerChar (Char.ofNat code)
      let given := Text.lowerChar c
      given == wanted || (Text.siblings wanted).contains given

/-- Some character of the range agrees with `c` under the comparison. -/
def rangeAccepts (fold : Fold) (low high : Nat) (c : Char) : Bool :=
  let inside (d : Char) : Bool := low ≤ d.toNat && d.toNat ≤ high
  match fold with
  | .exact => inside c
  | .ascii => inside c.toLower || inside c.toUpper || inside c
  | .unicode =>
    let given := Text.lowerChar c
    inside c || inside given ||
      (given :: Text.siblings given).any fun d => (Text.lowerPreimages d).any inside

/-- The member admits the character. -/
def accepts (fold : Fold) : ClassItem → Char → Bool
  | .one code, c => oneAccepts fold code c
  | .range low high, c => rangeAccepts fold low high c
  | .category kind negated asciiOnly, c =>
    (if asciiOnly then kind.containsAscii c else kind.contains c) != negated

end ClassItem

/-- A test of one character. -/
inductive CharTest where
  | any
  | exceptNewline
  | set (negated : Bool) (items : List ClassItem) (fold : Fold)
deriving DecidableEq, Repr

namespace CharTest

/-- The test admits the character. -/
def accepts : CharTest → Char → Bool
  | .any, _ => true
  | .exceptNewline, c => c != '\n'
  | .set negated items fold, c => items.any (·.accepts fold c) != negated

end CharTest

/-- A test of the place between two characters. -/
inductive Anchor where
  | textStart
  | lineStart
  | textEnd
  | lastLineEnd
  | lineEnd
  | boundary (negated : Bool) (asciiOnly : Bool)
deriving DecidableEq, Repr

/-- In which order a repetition tries its numbers of rounds, and whether it may reconsider. -/
inductive Eagerness where
  | greedy
  | reluctant
  | possessive
deriving DecidableEq, Repr

/-- Regular expressions. -/
inductive Regex where
  | empty
  | one (test : CharTest)
  | at (anchor : Anchor)
  | seq (first second : Regex)
  | alt (first second : Regex)
  | repeated (eagerness : Eagerness) (least : Nat) (most : Option Nat) (body : Regex)
  | group (index : Nat) (body : Regex)
  | atomic (body : Regex)
  | ahead (negated : Bool) (body : Regex)
  | behind (negated : Bool) (width : Nat) (body : Regex)
  | same (index : Nat) (fold : Fold)
  | ifGroup (index : Nat) (yes no : Regex)
deriving DecidableEq, Repr

namespace Regex

/-- One given character. -/
def char (fold : Fold) (c : Char) : Regex := .one (.set false [.one c.toNat] fold)

/-- The characters of a text, one expression each. -/
def chars (fold : Fold) (s : String) : List Regex := s.toList.map (char fold)

/-- The expressions one after the other. -/
def concat : List Regex → Regex
  | [] => .empty
  | [r] => r
  | r :: rest => .seq r (concat rest)

/-- A given text. -/
def literal (fold : Fold) (s : String) : Regex := concat (chars fold s)

/-- The first of the expressions that fits; of none at all, nothing does. -/
def choice : List Regex → Regex
  | [] => .ahead true .empty
  | [r] => r
  | r :: rest => .alt r (choice rest)

/-- The first of the texts that fits. -/
def words (fold : Fold) (texts : List String) : Regex := choice (texts.map (literal fold))

/-- One character of a class. -/
def oneOf (fold : Fold) (items : List ClassItem) : Regex := .one (.set false items fold)

/-- One character outside a class. -/
def noneOf (fold : Fold) (items : List ClassItem) : Regex := .one (.set true items fold)

/-- Any character but a line feed. -/
def anyChar : Regex := .one .exceptNewline

/-- Any number of rounds, as many as possible first. -/
def many (r : Regex) : Regex := .repeated .greedy 0 none r

/-- At least one round, as many as possible first. -/
def many1 (r : Regex) : Regex := .repeated .greedy 1 none r

/-- One round or none. -/
def perhaps (r : Regex) : Regex := .repeated .greedy 0 (some 1) r

/-- The members of a class that are the characters of a text. -/
def members (s : String) : List ClassItem := s.toList.map fun c => .one c.toNat

/-- The members of a class from one character to another. -/
def span (low high : Char) : ClassItem := .range low.toNat high.toNat

/-- A blank. -/
def blank : Regex := .one (.set false [.category .blank false false] .exact)

/-- The place between a word character and another one. -/
def wordEdge : Regex := .at (.boundary false false)

end Regex

end Hazard
