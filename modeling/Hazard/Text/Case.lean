import Hazard.Text.CaseTable
import Hazard.Text.Class

/-!
Lower and upper case. `lowerChar` is the one-to-one mapping; `lower` and `upper` are the mappings of
whole texts, which may lengthen a text and know which small sigma ends a word.
-/

namespace Hazard.Text

namespace CaseRun

/-- The code point is one of those that the run maps. -/
def covers (run : CaseRun) (code : Nat) : Bool :=
  run.first ≤ code && code ≤ run.last && (code - run.first) % run.step == 0

/-- Where the run sends a code point that it covers. -/
def apply (run : CaseRun) (code : Nat) : Nat := ((code : Int) + run.shift).toNat

end CaseRun

/-- Maps one character by the run that covers it, if any. -/
def mapByRuns (runs : List CaseRun) (c : Char) : Char :=
  match runs.find? (·.covers c.toNat) with
  | some run => Char.ofNat (run.apply c.toNat)
  | none => c

/-- The one-to-one lower case of a character. -/
def lowerChar (c : Char) : Char :=
  if c.toNat < 0x80 then c.toLower else mapByRuns lowerRuns c

/-- The characters whose one-to-one lower case is the given one. -/
def lowerPreimages (c : Char) : List Char :=
  (lowerRuns.filterMap fun run =>
    let code := ((c.toNat : Int) - run.shift).toNat
    if run.covers code && run.apply code == c.toNat then some (Char.ofNat code) else none)
    ++ (if lowerChar c == c then [c] else [])

/-- The lower-case characters that match a lower-case character when case is ignored, itself aside. -/
def siblings (c : Char) : List Char :=
  match caseSiblings.find? (·.1 == c.toNat) with
  | some entry => entry.2.map Char.ofNat
  | none => []

/-- The nearest character that is not case-ignorable is a cased one. -/
def meetsCased (text : List Char) : Bool :=
  match text.dropWhile (inRanges caseIgnorableRanges ·.toNat) with
  | [] => false
  | c :: _ => inRanges casedRanges c.toNat

/-- Lower case of a text that follows the characters `before`, nearest first. -/
def lowerAfter (before : List Char) : List Char → List Char
  | [] => []
  | c :: rest =>
    let image :=
      if c == 'Σ' then
        [if meetsCased before && !meetsCased rest then 'ς' else 'σ']
      else if c == 'İ' then ['i', Char.ofNat 0x307]
      else [lowerChar c]
    image ++ lowerAfter (c :: before) rest

/-- Lower case of a whole text. -/
def lower (text : List Char) : List Char := lowerAfter [] text

/-- Upper case of one character, which may be several characters. -/
def upperChar (c : Char) : List Char :=
  if c.toNat < 0x80 then [c.toUpper]
  else match upperExpansions.find? (·.1 == c.toNat) with
    | some entry => entry.2.map Char.ofNat
    | none => [mapByRuns upperRuns c]

/-- Upper case of a whole text. -/
def upper (text : List Char) : List Char := text.flatMap upperChar

end Hazard.Text
