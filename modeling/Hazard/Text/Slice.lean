/-!
Finding, replacing and cutting inside texts.
-/

namespace Hazard.Text

/-- The first character that begins an occurrence of `needle`, as the text before it and the text
after the occurrence. -/
def cutAt? (needle : List Char) : List Char → Option (List Char × List Char)
  | [] => if needle.isEmpty then some ([], []) else none
  | c :: rest =>
    if needle.isPrefixOf (c :: rest) then some ([], (c :: rest).drop needle.length)
    else (cutAt? needle rest).map fun cut => (c :: cut.1, cut.2)

/-- `needle` occurs in the text. -/
def contains (text needle : List Char) : Bool := (cutAt? needle text).isSome

/-- Replaces the leftmost occurrence of `needle`; an absent one changes nothing. -/
def replaceFirst (text needle replacement : List Char) : List Char :=
  match cutAt? needle text with
  | some (before, after) => before ++ replacement ++ after
  | none => text

/-- The first `count` characters; a negative count leaves out that many at the end. -/
def takeSigned (count : Int) (text : List Char) : List Char :=
  if 0 ≤ count then text.take count.toNat else text.take (text.length - count.natAbs)

/-- Cuts a text to `limit` characters, the last three of which are then dots. -/
def truncate (limit : Int) (text : List Char) : List Char :=
  if text.length ≤ limit then text else takeSigned (limit - 3) text ++ ['.', '.', '.']

/-- The text without its first and its last character. -/
def withoutEnds (text : List Char) : List Char := (text.drop 1).dropLast

/-- Splits at every occurrence of the separator, which itself is dropped. -/
def splitOn (separator : Char) : List Char → List (List Char)
  | [] => [[]]
  | c :: rest =>
    if c == separator then [] :: splitOn separator rest
    else match splitOn separator rest with
      | [] => [[c]]
      | part :: parts => (c :: part) :: parts

/-- Replaces every character equal to `old`. -/
def replaceChar (old new : Char) (text : List Char) : List Char :=
  text.map fun c => if c == old then new else c

/-- Joins parts with a separator between neighbours. -/
def join (separator : List Char) : List (List Char) → List Char
  | [] => []
  | [part] => part
  | part :: parts => part ++ separator ++ join separator parts

end Hazard.Text
