import Hazard.Data.Yaml.Token

/-!
From characters to tokens. Indentation opens and closes block collections, and a colon turns what stood
before it on its line into a key: a place where a key may begin is remembered, and the token that says
so is put there once the colon comes.
-/

namespace Hazard.Yaml

/-- A place where a key may have begun. -/
structure PossibleKey where
  /-- The number of tokens before it. -/
  position : Nat
  /-- What stands there cannot be anything but a key. -/
  required : Bool
  index : Nat
  line : Nat
  column : Nat
deriving DecidableEq, Repr

/-- How far a text has been cut into tokens. -/
structure Layout where
  cursor : Cursor
  tokens : List Token
  /-- How many brackets are open. -/
  depth : Nat
  /-- The column of the innermost block collection, which is -1 outside of all. -/
  indent : Int
  /-- The columns of the block collections around it. -/
  outer : List Int
  keyAllowed : Bool
  /-- Places where keys may have begun, by the number of brackets open there. -/
  keys : List (Nat × PossibleKey)
deriving Repr

namespace Layout

/-- Nothing has been cut off yet. -/
def start (text : List Char) : Layout := ⟨.start text, [], 0, -1, [], true, []⟩

/-- One more token, and the place after it. -/
def emit (layout : Layout) (token : Token) (after : Cursor) : Layout :=
  { layout with tokens := layout.tokens ++ [token], cursor := after }

/-- A token before those from a position on. -/
def insertAt (layout : Layout) (position : Nat) (token : Token) : Layout :=
  { layout with tokens := layout.tokens.take position ++ token :: layout.tokens.drop position }

/-- Blanks, comments and line breaks before the next token; after a line break outside of brackets a
key may begin. -/
def skipBlanks : Nat → Layout → Layout
  | 0, layout => layout
  | steps + 1, layout =>
    let afterSpaces := layout.cursor.skip (· == ' ')
    let afterComment :=
      if afterSpaces.peek == some '#' then afterSpaces.skip fun c => !isBreak c else afterSpaces
    match afterComment.takeBreak? with
    | some (_, next) =>
      skipBlanks steps
        { layout with cursor := next, keyAllowed := layout.keyAllowed || layout.depth == 0 }
    | none => { layout with cursor := afterComment }

/-- Forgets the places where a key can no longer be: those on other lines or too far back. -/
def dropStale (layout : Layout) : Option Layout :=
  let stale (key : PossibleKey) : Bool :=
    key.line != layout.cursor.line || 1024 < layout.cursor.index - key.index
  if layout.keys.any fun entry => stale entry.2 && entry.2.required then none
  else some { layout with keys := layout.keys.filter fun entry => !stale entry.2 }

/-- Forgets the place where a key may have begun between the present brackets. -/
def dropKey (layout : Layout) : Option Layout :=
  match layout.keys.lookup layout.depth with
  | some key =>
    if key.required then none
    else some { layout with keys := layout.keys.filter fun entry => entry.1 != layout.depth }
  | none => some layout

/-- Remembers that a key may begin here. -/
def noteKey (layout : Layout) : Option Layout :=
  if layout.keyAllowed then do
    let cleared ← layout.dropKey
    let cursor := layout.cursor
    let key : PossibleKey :=
      { position := layout.tokens.length
        required := layout.depth == 0 && layout.indent == cursor.column
        index := cursor.index
        line := cursor.line
        column := cursor.column }
    pure { cleared with keys := (layout.depth, key) :: cleared.keys }
  else some layout

/-- Closes the block collections around one, as far as they are indented beyond a column. -/
def closeOuter (column : Int) (indent : Int) (tokens : List Token) :
    List Int → Int × List Token × List Int
  | [] => (indent, tokens, [])
  | next :: rest =>
    if column < indent then closeOuter column next (tokens ++ [.blockEnd]) rest
    else (indent, tokens, next :: rest)

/-- Closes the block collections that are indented beyond a column; brackets keep all open. -/
def closeBeyond (layout : Layout) (column : Int) : Layout :=
  if layout.depth != 0 then layout
  else
    let (indent, tokens, outer) := closeOuter column layout.indent layout.tokens layout.outer
    { layout with indent := indent, tokens := tokens, outer := outer }

/-- Opens a block collection at a column, unless one is open there: whether it did. -/
def openAt (layout : Layout) (column : Int) : Bool × Layout :=
  if layout.indent < column then
    (true, { layout with indent := column, outer := layout.indent :: layout.outer })
  else (false, layout)

/-- Opens a block collection here, whose first token goes to the end. -/
def openHere (layout : Layout) (token : Token) : Layout :=
  let (isNew, opened) := layout.openAt layout.cursor.column
  if isNew then opened.emit token opened.cursor else opened

/-- The end of the text: everything is closed. -/
def finish (layout : Layout) : Option (List Token) := do
  let final ← (layout.closeBeyond (-1)).dropKey
  pure final.tokens

/-- A directive or a separator of documents. -/
def takeOutside (layout : Layout) (token : Token) (after : Cursor) : Option Layout := do
  let cleared ← (layout.closeBeyond (-1)).dropKey
  pure ({ cleared with keyAllowed := false }.emit token after)

/-- An opening bracket. -/
def openBracket (layout : Layout) (token : Token) : Option Layout := do
  let noted ← layout.noteKey
  pure ({ noted with depth := noted.depth + 1, keyAllowed := true }.emit token layout.cursor.step)

/-- A closing bracket; one that closes nothing is refused. -/
def closeBracket (layout : Layout) (token : Token) : Option Layout := do
  let cleared ← layout.dropKey
  if cleared.depth == 0 then none
  else
    pure ({ cleared with depth := cleared.depth - 1, keyAllowed := false }.emit token
      layout.cursor.step)

/-- A comma between brackets. -/
def takeComma (layout : Layout) : Option Layout := do
  let cleared ← layout.dropKey
  pure ({ cleared with keyAllowed := true }.emit .flowEntry layout.cursor.step)

/-- A mark that opens a block collection if need be: a hyphen or a question mark. -/
def takeOpener (layout : Layout) (collection mark : Token) (keyAllowed : Bool) : Option Layout :=
  if layout.depth == 0 && !layout.keyAllowed then none
  else do
    let opened := if layout.depth == 0 then layout.openHere collection else layout
    let cleared ← { opened with keyAllowed := keyAllowed }.dropKey
    pure (cleared.emit mark cleared.cursor.step)

/-- A colon after a key that is written before it. -/
def takeColonAfter (layout : Layout) (key : PossibleKey) : Layout :=
  let cleared :=
    { layout with keys := layout.keys.filter fun entry => entry.1 != layout.depth
                  keyAllowed := false }.insertAt key.position .key
  let opened :=
    if layout.depth == 0 then
      let (isNew, opened) := cleared.openAt key.column
      if isNew then opened.insertAt key.position .blockMappingStart else opened
    else cleared
  opened.emit .value layout.cursor.step

/-- A colon. -/
def takeColon (layout : Layout) : Option Layout :=
  match layout.keys.lookup layout.depth with
  | some key => some (layout.takeColonAfter key)
  | none => layout.takeOpener .blockMappingStart .value (layout.depth == 0)

/-- A token that may be a key or a part of one. -/
def takeKeyPart (layout : Layout) (part : Option (Token × Cursor)) : Option Layout := do
  let noted ← layout.noteKey
  let (token, after) ← part
  pure ({ noted with keyAllowed := false }.emit token after)

/-- A plain scalar may begin here. -/
def atPlain (layout : Layout) (c : Char) : Bool :=
  !(endsWord (some c) || "-?:,[]\x7b\x7d#&*!|>'\"%@`".toList.contains c) ||
    (!endsWord (layout.cursor.peekAt 1) && (c == '-' || (layout.depth == 0 && (c == '?' || c == ':'))))

/-- The next token, which begins with a character. -/
def takeNext (layout : Layout) (c : Char) : Option Layout :=
  let cursor := layout.cursor
  let atLineStart := cursor.column == 0
  let inFlow := layout.depth != 0
  let beforeBlank := endsWord (cursor.peekAt 1)
  if c == '%' && atLineStart then do
    let (token, after) ← takeDirective? cursor
    layout.takeOutside token after
  else if c == '-' && atLineStart && cursor.atSeparator then
    layout.takeOutside .documentStart (cursor.advance 3)
  else if c == '.' && atLineStart && cursor.atSeparator then
    layout.takeOutside .documentEnd (cursor.advance 3)
  else if c == '[' then layout.openBracket .flowSequenceStart
  else if c == '\x7b' then layout.openBracket .flowMappingStart
  else if c == ']' then layout.closeBracket .flowSequenceEnd
  else if c == '\x7d' then layout.closeBracket .flowMappingEnd
  else if c == ',' then layout.takeComma
  else if c == '-' && beforeBlank then layout.takeOpener .blockSequenceStart .blockEntry true
  else if c == '?' && (inFlow || beforeBlank) then
    layout.takeOpener .blockMappingStart .key (!inFlow)
  else if c == ':' && (inFlow || beforeBlank) then layout.takeColon
  else if c == '*' then
    layout.takeKeyPart ((takeName? cursor).map fun (name, after) => (.alias name, after))
  else if c == '&' then
    layout.takeKeyPart ((takeName? cursor).map fun (name, after) => (.anchor name, after))
  else if c == '!' then layout.takeKeyPart (takeTag? cursor)
  else if (c == '|' || c == '>') && !inFlow then do
    let cleared ← layout.dropKey
    let (token, after) ← takeBlock? (c == '>') layout.indent cursor
    pure ({ cleared with keyAllowed := true }.emit token after)
  else if c == '\'' || c == '"' then layout.takeKeyPart (some (takeQuoted c cursor))
  else if layout.atPlain c then do
    let noted ← layout.noteKey
    let (token, broken, after) := takePlain inFlow layout.indent cursor
    pure ({ noted with keyAllowed := broken }.emit token after)
  else none

/-- The tokens up to here, and a fault after them. -/
def tokensBefore (layout : Layout) (fault : ReadError) : List Token :=
  layout.tokens ++ [.fault fault]

/-- The last token tells of something that cannot be read. -/
def isStopped (layout : Layout) : Bool :=
  match layout.tokens.getLast? with
  | some (.fault _) => true
  | _ => false

/-- Cuts a text into tokens, up to the first fault; the number bounds the tokens. -/
def run : Nat → Layout → List Token
  | 0, layout => layout.tokensBefore .malformed
  | steps + 1, layout =>
    match (layout.skipBlanks (layout.cursor.rest.length + 1)).dropStale with
    | none => layout.tokensBefore .malformed
    | some ready =>
      let closed := ready.closeBeyond ready.cursor.column
      match closed.cursor.peek with
      | none => closed.finish.getD (closed.tokensBefore .malformed)
      | some c =>
        match closed.takeNext c with
        | none => closed.tokensBefore .malformed
        | some next => if next.isStopped then next.tokens else run steps next

end Layout

/-- The tokens of a text, up to the first fault; a mark of the byte order may come first. -/
def tokens (text : List Char) : List Token :=
  if !text.all isAllowed then [.fault .malformed]
  else
    let layout := Layout.start text
    let start :=
      if layout.cursor.peek == some '\ufeff' then { layout with cursor := layout.cursor.step }
      else layout
    start.run (text.length + 1)

end Hazard.Yaml
