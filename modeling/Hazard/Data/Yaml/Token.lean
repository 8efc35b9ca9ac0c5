import Hazard.Data.Yaml.Cursor
import Hazard.Data.Yaml.Fault
import Hazard.Number.Literal
import Hazard.Text.Encoding

/-!
The tokens of a YAML text, and the ones among them that are more than a mark: scalars, names, tags and
directives. Whatever is malformed has no token. Half of a character, which no text has, may be written by its
number; a mark stands for it.
-/

namespace Hazard.Yaml

/-- A tag as it is written: a handle, if there is one, and the rest. -/
structure TagText where
  handle : Option String
  suffix : String
deriving DecidableEq, Repr

/-- The parts of a YAML text. -/
inductive Token where
  | version (major : Nat)
  | tagHandle (handle expansion : String)
  | otherDirective
  | documentStart
  | documentEnd
  | blockSequenceStart
  | blockMappingStart
  | blockEnd
  | flowSequenceStart
  | flowSequenceEnd
  | flowMappingStart
  | flowMappingEnd
  | blockEntry
  | flowEntry
  | key
  | value
  | alias (name : String)
  | anchor (name : String)
  | tag (text : TagText)
  | scalar (text : List Char) (isPlain : Bool)
  /-- Something that cannot be read; no token comes after it. -/
  | fault (fault : ReadError)
deriving DecidableEq, Repr

/-- A character of a name. -/
def isNameChar (c : Char) : Bool := c.isAlphanum || c == '-' || c == '_'

/-- A character of the expansion of a tag. -/
def isUriChar (c : Char) : Bool := c.isAlphanum || "-;/?:@&=+$,_.!~*'()[]%".toList.contains c

/-- The octets that percent signs write, and the place after them. -/
def uriOctets : Nat → Cursor → Option (List UInt8 × Cursor)
  | steps + 1, cursor =>
    if cursor.peek == some '%' then do
      let high ← cursor.peekAt 1
      let low ← cursor.peekAt 2
      let octet ← Numeral.natural? 16 [high, low]
      let (more, after) ← uriOctets steps (cursor.advance 3)
      pure (octet.toUInt8 :: more, after)
    else some ([], cursor)
  | 0, cursor => some ([], cursor)

/-- Parts of the expansion of a tag; the number bounds the steps. -/
def uriWithin : Nat → Cursor → Option (List Char × Cursor)
  | 0, cursor => some ([], cursor)
  | steps + 1, cursor =>
    match cursor.peek with
    | some '%' => do
      let (octets, after) ← uriOctets steps cursor
      let text ← Text.decode? octets
      let (more, final) ← uriWithin steps after
      pure (text ++ more, final)
    | some c =>
      if isUriChar c then do
        let (more, final) ← uriWithin steps cursor.step
        pure (c :: more, final)
      else some ([], cursor)
    | none => some ([], cursor)

/-- The expansion of a tag, which is not empty. -/
def takeUri? (cursor : Cursor) : Option (String × Cursor) := do
  let (text, after) ← uriWithin (cursor.rest.length + 1) cursor
  if text.isEmpty then none else some (String.ofList text, after)

/-- The handle of a tag: a mark, or a name between two marks. -/
def takeHandle? (cursor : Cursor) : Option (String × Cursor) :=
  if cursor.peek != some '!' then none
  else if cursor.peekAt 1 == some ' ' then some ("!", cursor.step)
  else
    let (name, after) := cursor.step.span isNameChar
    if after.peek == some '!' then some (String.ofList ('!' :: name ++ ['!']), after.step) else none

/-- A tag. -/
def takeTag? (cursor : Cursor) : Option (Token × Cursor) := do
  let (text, after) ←
    if cursor.peekAt 1 == some '<' then do
      let (suffix, after) ← takeUri? (cursor.advance 2)
      if after.peek == some '>' then some (⟨none, suffix⟩, after.step) else none
    else if endsWord (cursor.peekAt 1) then some (⟨none, "!"⟩, cursor.step)
    else do
      let word := (cursor.rest.drop 1).takeWhile fun c => !endsField (some c)
      let (handle, after) ←
        if word.contains '!' then takeHandle? cursor else some ("!", cursor.step)
      let (suffix, final) ← takeUri? after
      some ((⟨some handle, suffix⟩ : TagText), final)
  if endsField after.peek then some (.tag text, after) else none

/-- The name of an anchor or an alias, after its mark. -/
def takeName? (cursor : Cursor) : Option (String × Cursor) :=
  let (name, after) := cursor.step.span isNameChar
  let isEnd := endsWord after.peek || after.peek.any ("?:,]\x7d%@`".toList.contains ·)
  if name.isEmpty || !isEnd then none else some (String.ofList name, after)

/-- A number of a version. -/
def takeVersionPart? (cursor : Cursor) : Option (Nat × Cursor) := do
  let (digits, after) := cursor.span Char.isDigit
  let n ← Numeral.natural? 10 digits
  pure (n, after)

/-- A directive, with the rest of its line. -/
def takeDirective? (cursor : Cursor) : Option (Token × Cursor) := do
  let (name, afterName) := cursor.step.span isNameChar
  if name.isEmpty || !endsField afterName.peek then none
  else
    let inside := afterName.skip (· == ' ')
    if name == "YAML".toList then
      let (major, afterMajor) ← takeVersionPart? inside
      if afterMajor.peek != some '.' then none
      else
        let (_, afterMinor) ← takeVersionPart? afterMajor.step
        if !endsField afterMinor.peek then none
        else
          let final ← afterMinor.skipLineEnd?
          some (.version major, final)
    else if name == "TAG".toList then
      let (handle, afterHandle) ← takeHandle? inside
      if afterHandle.peek != some ' ' then none
      else
        let (expansion, afterExpansion) ← takeUri? (afterHandle.skip (· == ' '))
        if !endsField afterExpansion.peek then none
        else
          let final ← afterExpansion.skipLineEnd?
          some (.tagHandle handle expansion, final)
    else
      let final ← (afterName.skip fun c => !isBreak c).skipLineEnd?
      some (.otherDirective, final)

/-! ### Quoted scalars -/

/-- The characters that stand for one other character after a backslash. -/
def escapes : List (Char × Char) :=
  [('0', '\x00'), ('a', '\x07'), ('b', '\x08'), ('t', '\t'), ('\t', '\t'), ('n', '\n'),
    ('v', '\x0b'), ('f', '\x0c'), ('r', '\r'), ('e', '\x1b'), (' ', ' '), ('"', '"'), ('\\', '\\'),
    ('/', '/'), ('N', '\x85'), ('_', '\xa0'), ('L', '\u2028'), ('P', '\u2029')]

/-- How many digits follow a backslash and a letter. -/
def escapeWidth? : Char → Option Nat
  | 'x' => some 2
  | 'u' => some 4
  | 'U' => some 8
  | _ => none

/-- Empty lines inside a quoted scalar; documents may not end there. -/
def quotedBreaks : Nat → Cursor → Option (List Char × Cursor)
  | 0, cursor => some ([], cursor)
  | steps + 1, cursor =>
    if cursor.atSeparator then none
    else
      let afterSpaces := cursor.skip fun c => c == ' ' || c == '\t'
      match afterSpaces.takeBreak? with
      | some (c, next) => do
        let (more, final) ← quotedBreaks steps next
        pure (c :: more, final)
      | none => some ([], afterSpaces)

/-- What a line break and the empty lines after it come to: one break is a space. -/
def foldedBreaks (first : Char) (more : List Char) : List Char :=
  if first != '\n' then first :: more else if more.isEmpty then [' '] else more

/-- Spaces inside a quoted scalar, which vanish around line breaks. -/
def quotedSpaces? (cursor : Cursor) : Option (List Char × Cursor) :=
  let (spaces, after) := cursor.span fun c => c == ' ' || c == '\t'
  match after.takeBreak? with
  | some (first, next) => do
    let (more, final) ← quotedBreaks (next.rest.length + 1) next
    pure (foldedBreaks first more, final)
  | none => if after.rest.isEmpty then none else some (spaces, after)

/-- What is there, or else the text is malformed. -/
def present {α : Type} : Option α → Except ReadError α
  | some a => .ok a
  | none => .error .malformed

/-- The character of a number; a mark stands for half of one. -/
def characterOf (code : Nat) : Except ReadError Char :=
  if 0x110000 ≤ code then .error (.noCharacter code)
  else if 0xd800 ≤ code && code < 0xe000 then .ok '\ufffd'
  else .ok (Char.ofNat code)

/-- An escape after its backslash. -/
def takeEscape (cursor : Cursor) : Except ReadError (List Char × Cursor) :=
  match cursor.peek with
  | none => .error .malformed
  | some c =>
    match escapes.lookup c with
    | some replacement => .ok ([replacement], cursor.step)
    | none =>
      match escapeWidth? c with
      | some width => do
        let digits := (cursor.rest.drop 1).take width
        if digits.length != width then .error .malformed
        else
          let code ← present (Numeral.natural? 16 digits)
          let character ← characterOf code
          pure ([character], cursor.advance (width + 1))
      | none =>
        match cursor.takeBreak? with
        | some (_, next) => present (quotedBreaks (next.rest.length + 1) next)
        | none => .error .malformed

/-- The rest of a quoted scalar, up to and with its closing quote; the number bounds the steps. -/
def quotedWithin (quote : Char) : Nat → Cursor → Except ReadError (List Char × Cursor)
  | 0, _ => .error .malformed
  | steps + 1, cursor =>
    match cursor.peek with
    | none => .error .malformed
    | some c =>
      if c == quote then
        if quote == '\'' && cursor.peekAt 1 == some '\'' then do
          let (more, final) ← quotedWithin quote steps (cursor.advance 2)
          pure ('\'' :: more, final)
        else .ok ([], cursor.step)
      else if quote == '"' && c == '\\' then do
        let (text, after) ← takeEscape cursor.step
        let (more, final) ← quotedWithin quote steps after
        pure (text ++ more, final)
      else if c == ' ' || c == '\t' || isBreak c then do
        let (text, after) ← present (quotedSpaces? cursor)
        let (more, final) ← quotedWithin quote steps after
        pure (text ++ more, final)
      else do
        let (more, final) ← quotedWithin quote steps cursor.step
        pure (c :: more, final)

/-- A quoted scalar, or what keeps it from being read. -/
def takeQuoted (quote : Char) (cursor : Cursor) : Token × Cursor :=
  match quotedWithin quote (cursor.rest.length + 1) cursor.step with
  | .ok (text, after) => (.scalar text false, after)
  | .error fault => (.fault fault, cursor)

/-! ### Block scalars -/

/-- What becomes of the line breaks at the end of a block scalar. -/
inductive Chomping where
  | strip
  | clip
  | keep
deriving DecidableEq, Repr

/-- The sign that tells about the breaks at the end. -/
def chomping? : Option Char → Option Chomping
  | some '+' => some .keep
  | some '-' => some .strip
  | _ => none

/-- A digit that tells the indentation. -/
def increment? (c : Option Char) : Option Nat :=
  match c with
  | some c => if c.isDigit then some (c.toNat - 48) else none
  | none => none

/-- The sign and the digit of a block scalar, in either order, and the rest of their line. -/
def takeHeader? (cursor : Cursor) : Option (Chomping × Option Nat × Cursor) := do
  let (chomping, increment, after) :=
    match chomping? cursor.peek, increment? cursor.peek with
    | some chomping, _ =>
      match increment? (cursor.peekAt 1) with
      | some n => (chomping, some n, cursor.advance 2)
      | none => (chomping, none, cursor.step)
    | none, some n =>
      match chomping? (cursor.peekAt 1) with
      | some chomping => (chomping, some n, cursor.advance 2)
      | none => (.clip, some n, cursor.step)
    | none, none => (.clip, none, cursor)
  if increment == some 0 || !endsField after.peek then none
  else
    let next ← after.skipLineEnd?
    pure (chomping, increment, next)

/-- Skips spaces up to a column. -/
def skipIndent (indent : Nat) : Nat → Cursor → Cursor
  | 0, cursor => cursor
  | steps + 1, cursor =>
    if cursor.column < indent && cursor.peek == some ' ' then skipIndent indent steps cursor.step
    else cursor

/-- Empty lines before the text of a block scalar, and the widest column that they reach. -/
def leadingLines : Nat → Nat → Cursor → List Char × Nat × Cursor
  | 0, widest, cursor => ([], widest, cursor)
  | steps + 1, widest, cursor =>
    if cursor.peek == some ' ' then
      let next := cursor.step
      leadingLines steps (max widest next.column) next
    else match cursor.takeBreak? with
      | some (c, next) =>
        let (more, final, after) := leadingLines steps widest next
        (c :: more, final, after)
      | none => ([], widest, cursor)

/-- Empty lines inside a block scalar that is indented to a column. -/
def blockBreaks (indent : Nat) : Nat → Cursor → List Char × Cursor
  | 0, cursor => ([], cursor)
  | steps + 1, cursor =>
    let inside := skipIndent indent cursor.rest.length cursor
    match inside.takeBreak? with
    | some (c, next) =>
      let (more, after) := blockBreaks indent steps next
      (c :: more, after)
    | none => ([], inside)

/-- The character does not begin with a blank. -/
def isFlush (c : Option Char) : Bool := c != some ' ' && c != some '\t'

/-- The lines of a block scalar: its text, the break that ends the last line, and the breaks after
that. The number bounds the lines. -/
def blockLines (folded : Bool) (indent : Nat) :
    Nat → List Char → Cursor → List Char × List Char × List Char × Cursor
  | 0, breaks, cursor => ([], [], breaks, cursor)
  | steps + 1, breaks, cursor =>
    if cursor.column != indent || cursor.rest.isEmpty then ([], [], breaks, cursor)
    else
      let flush := isFlush cursor.peek
      let (text, lineEnd) := cursor.span fun c => !isBreak c
      let (lineBreak, next) := match lineEnd.takeBreak? with
        | some (c, next) => ([c], next)
        | none => ([], lineEnd)
      let (more, after) := blockBreaks indent (next.rest.length + 1) next
      if after.column == indent && !after.rest.isEmpty then
        let joint :=
          if folded && lineBreak == ['\n'] && flush && isFlush after.peek then
            (if more.isEmpty then [' '] else [])
          else lineBreak
        let (rest, finalBreak, tail, final) := blockLines folded indent steps more after
        (breaks ++ text ++ joint ++ rest, finalBreak, tail, final)
      else (breaks ++ text, lineBreak, more, after)

/-- A block scalar in a collection that is indented to a column. -/
def takeBlock? (folded : Bool) (outer : Int) (cursor : Cursor) : Option (Token × Cursor) := do
  let (chomping, increment, start) ← takeHeader? cursor.step
  let least := (max (outer + 1) 1).toNat
  let (indent, breaks, inside) := match increment with
    | some n =>
      let (breaks, inside) := blockBreaks (least + n - 1) (start.rest.length + 1) start
      (least + n - 1, breaks, inside)
    | none =>
      let (breaks, widest, inside) := leadingLines start.rest.length 0 start
      (max least widest, breaks, inside)
  let (text, lineBreak, tail, final) :=
    blockLines folded indent (inside.rest.length + 1) breaks inside
  let ending := match chomping with
    | .strip => []
    | .clip => lineBreak
    | .keep => lineBreak ++ tail
  pure (.scalar (text ++ ending) false, final)

/-! ### Plain scalars -/

/-- A plain scalar may not go on with the next character. -/
def endsPlain (inFlow : Bool) (next afterNext : Option Char) : Bool :=
  endsWord next ||
    (next == some ':' &&
      (endsWord afterNext || (inFlow && afterNext.any (",[]\x7b\x7d".toList.contains ·)))) ||
    (inFlow && next.any (",?[]\x7b\x7d".toList.contains ·))

/-- A piece of a plain scalar without blanks. -/
def plainPiece (inFlow : Bool) : Nat → Cursor → List Char × Cursor
  | 0, cursor => ([], cursor)
  | steps + 1, cursor =>
    match cursor.peek with
    | some c =>
      if endsPlain inFlow (some c) (cursor.peekAt 1) then ([], cursor)
      else
        let (more, after) := plainPiece inFlow steps cursor.step
        (c :: more, after)
    | none => ([], cursor)

/-- Line breaks after the first one between two pieces; none at all if a document ends there. -/
def plainBreaks : Nat → Cursor → Option (List Char) × Cursor
  | 0, cursor => (some [], cursor)
  | steps + 1, cursor =>
    if cursor.peek == some ' ' then plainBreaks steps cursor.step
    else match cursor.takeBreak? with
      | some (c, next) =>
        if next.atSeparator then (none, next)
        else
          let (more, after) := plainBreaks steps next
          (more.map (c :: ·), after)
      | none => (some [], cursor)

/-- What stands between two pieces: what it comes to, if anything does, whether there was a line
break, and the place after it. -/
def plainSpaces (cursor : Cursor) : Option (List Char) × Bool × Cursor :=
  let (spaces, after) := cursor.span (· == ' ')
  match after.takeBreak? with
  | some (first, next) =>
    if next.atSeparator then (none, true, next)
    else
      let (breaks, final) := plainBreaks (next.rest.length + 1) next
      (breaks.map (foldedBreaks first), true, final)
  | none => (if spaces.isEmpty then none else some spaces, false, after)

/-- A plain scalar: its text, whether a line break came last, and the place after it. -/
def plainWithin (inFlow : Bool) (indent : Int) :
    Nat → List Char → Bool → Cursor → List Char × Bool × Cursor
  | 0, _, broken, cursor => ([], broken, cursor)
  | steps + 1, spaces, broken, cursor =>
    if cursor.peek == some '#' then ([], broken, cursor)
    else
      let (piece, after) := plainPiece inFlow cursor.rest.length cursor
      if piece.isEmpty then ([], broken, cursor)
      else
        let (between, brokenHere, next) := plainSpaces after
        match between with
        | none => (spaces ++ piece, brokenHere, next)
        | some text =>
          if next.peek == some '#' || (!inFlow && (next.column : Int) < indent) then
            (spaces ++ piece, brokenHere, next)
          else
            let (more, brokenLater, final) := plainWithin inFlow indent steps text brokenHere next
            (spaces ++ piece ++ more, brokenLater, final)

/-- A plain scalar in a collection that is indented to a column, and whether a line break followed
it. -/
def takePlain (inFlow : Bool) (outer : Int) (cursor : Cursor) : Token × Bool × Cursor :=
  let (text, broken, after) :=
    plainWithin inFlow (outer + 1) (cursor.rest.length + 1) [] false cursor
  (.scalar text true, broken, after)

end Hazard.Yaml
