/-!
A place in a YAML text: the characters that follow, and where it is. Line breaks end lines, and the
mark of the byte order takes no column.
-/

namespace Hazard.Yaml

/-- The character ends a line. -/
def isBreak (c : Char) : Bool :=
  c == '\n' || c == '\r' || c == '\x85' || c == '\u2028' || c == '\u2029'

/-- The end of the text or of a line, or a space. -/
def endsField : Option Char → Bool
  | some c => c == ' ' || isBreak c
  | none => true

/-- The end of the text or of a line, a space or a tabulator. -/
def endsWord : Option Char → Bool
  | some c => c == ' ' || c == '\t' || isBreak c
  | none => true

/-- The character may occur in a text at all. -/
def isAllowed (c : Char) : Bool :=
  let n := c.toNat
  n == 0x9 || n == 0xa || n == 0xd || (0x20 ≤ n && n ≤ 0x7e) || n == 0x85 ||
    (0xa0 ≤ n && n ≤ 0xd7ff) || (0xe000 ≤ n && n ≤ 0xfffd) || 0x10000 ≤ n

/-- A place in a text. -/
structure Cursor where
  /-- The characters that follow. -/
  rest : List Char
  /-- The number of characters before. -/
  index : Nat
  /-- The number of line ends before. -/
  line : Nat
  /-- The number of characters since the last line end. -/
  column : Nat
deriving DecidableEq, Repr

namespace Cursor

/-- The start of a text. -/
def start (text : List Char) : Cursor := ⟨text, 0, 0, 0⟩

/-- The next character. -/
def peek (cursor : Cursor) : Option Char := cursor.rest.head?

/-- The character that is `distance` further. -/
def peekAt (cursor : Cursor) (distance : Nat) : Option Char := cursor.rest[distance]?

/-- One character further. -/
def step (cursor : Cursor) : Cursor :=
  match cursor.rest with
  | [] => cursor
  | c :: rest =>
    if c == '\n' || c == '\x85' || c == '\u2028' || c == '\u2029' ||
        (c == '\r' && rest.head? != some '\n') then
      ⟨rest, cursor.index + 1, cursor.line + 1, 0⟩
    else if c == '\ufeff' then { cursor with rest := rest, index := cursor.index + 1 }
    else { cursor with rest := rest, index := cursor.index + 1, column := cursor.column + 1 }

/-- Some characters further. -/
def advance : Nat → Cursor → Cursor
  | 0, cursor => cursor
  | count + 1, cursor => advance count cursor.step

/-- The characters up to the first that fails a test, and the place of that one. -/
def span (cursor : Cursor) (test : Char → Bool) : List Char × Cursor :=
  let taken := cursor.rest.takeWhile test
  (taken, cursor.advance taken.length)

/-- The place after the characters that pass a test. -/
def skip (cursor : Cursor) (test : Char → Bool) : Cursor := (cursor.span test).2

/-- A line break, as it counts in a text, and the place after it. -/
def takeBreak? (cursor : Cursor) : Option (Char × Cursor) :=
  match cursor.rest with
  | '\r' :: '\n' :: _ => some ('\n', cursor.advance 2)
  | c :: _ =>
    if c == '\u2028' || c == '\u2029' then some (c, cursor.step)
    else if isBreak c then some ('\n', cursor.step)
    else none
  | [] => none

/-- A separator of documents stands here. -/
def atSeparator (cursor : Cursor) : Bool :=
  (cursor.rest.take 3 == ['-', '-', '-'] || cursor.rest.take 3 == ['.', '.', '.']) &&
    endsWord (cursor.peekAt 3)

/-- The rest of a line that may hold spaces and a comment only, and its break. -/
def skipLineEnd? (cursor : Cursor) : Option Cursor :=
  let afterSpaces := cursor.skip (· == ' ')
  let afterComment :=
    if afterSpaces.peek == some '#' then afterSpaces.skip fun c => !isBreak c else afterSpaces
  match afterComment.takeBreak? with
  | some (_, next) => some next
  | none => if afterComment.rest.isEmpty then some afterComment else none

end Cursor

end Hazard.Yaml
