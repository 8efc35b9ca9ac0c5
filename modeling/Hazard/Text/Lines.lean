/-!
Lines, byte offsets and columns of a text. Offsets count the bytes of the UTF-8 form, columns count
characters from one, and a line ends at a line feed, which takes a carriage return before it along.
-/

namespace Hazard.Text

/-- Bytes of the UTF-8 form. -/
def byteLength : List Char → Nat
  | [] => 0
  | c :: rest => c.utf8Size + byteLength rest

/-- The characters that lie wholly in the first `count` bytes. -/
def takeBytes : Nat → List Char → List Char
  | _, [] => []
  | count, c :: rest =>
    if c.utf8Size ≤ count then c :: takeBytes (count - c.utf8Size) rest else []

/-- The characters that begin at or after byte `count`. -/
def dropBytes : Nat → List Char → List Char
  | _, [] => []
  | 0, text => text
  | count, c :: rest => dropBytes (count - c.utf8Size) rest

/-- The characters between two byte offsets. -/
def sliceBytes (start stop : Nat) (text : List Char) : List Char :=
  takeBytes (stop - start) (dropBytes start text)

/-- The lines of a text, without their ends; a text always has one more line than line feeds. -/
def lines : List Char → List (List Char)
  | [] => [[]]
  | '\r' :: '\n' :: rest => [] :: lines rest
  | c :: rest =>
    if c == '\n' then [] :: lines rest
    else match lines rest with
      | [] => [[c]]
      | line :: more => (c :: line) :: more

/-- A place in a text: the number of line feeds before it and the bytes since the last of them. -/
structure Point where
  row : Nat
  offset : Nat
deriving DecidableEq, Repr

/-- What follows the last line feed. -/
def lastLine (text : List Char) : List Char := (text.reverse.takeWhile (· ≠ '\n')).reverse

/-- The place of a byte offset. -/
def pointAt (text : List Char) (offset : Nat) : Point :=
  let before := takeBytes offset text
  { row := before.count '\n'
    offset := offset - (byteLength before - byteLength (lastLine before)) }

/-- The one-based column of a place among the lines of its text; it stops after the line's end. -/
def column (allLines : List (List Char)) (point : Point) : Nat :=
  (takeBytes point.offset (allLines[point.row]?.getD [])).length + 1

end Hazard.Text
