import Hazard.Regex.Basic
import Hazard.Text.CharName

/-!
Reading a regular expression from its text. A text is first cut into tokens, of which an escape is
one; the reader then descends through alternatives, sequences and groups, and keeps for every piece
the widths that it can have, because what a look-behind looks at must have one width.
-/

namespace Hazard.Regex

/-- Why a text cannot be read as a regular expression. -/
inductive ParseError where
  /-- The text has not the form of one. -/
  | malformed
  /-- A repetition asks for more rounds than can be counted. -/
  | repetitionTooLarge
  /-- A count has more digits than an integer is read from. -/
  | countTooLong (digits : Nat)
  /-- Switches that exclude each other are turned on for the whole expression. -/
  | switchesClash
  /-- Groups are nested deeper than there is room for. -/
  | tooDeep
deriving DecidableEq, Repr

/-- The fault lies in the form of the text. -/
def ParseError.isMalformed : ParseError → Bool
  | .malformed => true
  | _ => false

/-- The switches under which a piece is read. -/
structure Flags where
  ignoreCase : Bool := false
  multiline : Bool := false
  dotAll : Bool := false
  verbose : Bool := false
  asciiOnly : Bool := false
  /-- The whole of Unicode was asked for, not only taken for granted. -/
  unicode : Bool := false
deriving DecidableEq, Repr

namespace Flags

/-- How characters are compared under the switches. -/
def fold (flags : Flags) : Fold :=
  if !flags.ignoreCase then .exact else if flags.asciiOnly then .ascii else .unicode

end Flags

/-- A character, or a character after a backslash. -/
inductive Token where
  | plain (c : Char)
  | escaped (c : Char)
deriving DecidableEq, Repr

/-- Cuts a text into tokens; a backslash at the end escapes nothing. -/
def tokens? : List Char → Option (List Token)
  | [] => some []
  | ['\\'] => none
  | '\\' :: c :: rest => (tokens? rest).map (.escaped c :: ·)
  | c :: rest => (tokens? rest).map (.plain c :: ·)

/-- The least and the greatest number of characters that a piece can take; `none` has no bound. -/
structure Width where
  least : Nat
  most : Option Nat
deriving DecidableEq, Repr

namespace Width

/-- No characters. -/
def zero : Width := ⟨0, some 0⟩

/-- One character. -/
def unit : Width := ⟨1, some 1⟩

/-- One piece after another. -/
def add (a b : Width) : Width :=
  ⟨a.least + b.least, match a.most, b.most with
    | some m, some n => some (m + n)
    | _, _ => none⟩

/-- One piece or another. -/
def either (a b : Width) : Width :=
  ⟨min a.least b.least, match a.most, b.most with
    | some m, some n => some (max m n)
    | _, _ => none⟩

/-- A number of rounds of a piece. -/
def times (w : Width) (least : Nat) (most : Option Nat) : Width :=
  ⟨w.least * least, match w.most, most with
    | some 0, _ => some 0
    | some m, some n => some (m * n)
    | none, some 0 => some 0
    | _, _ => none⟩

end Width

/-- What a quantifier may follow. -/
inductive PieceKind where
  | plain
  | anchor
  | repetition
deriving DecidableEq, Repr

/-- A piece of a sequence. -/
structure Piece where
  regex : Regex
  width : Width
  kind : PieceKind := .plain

/-- What the reader has seen of groups and switches. -/
structure Groups where
  /-- The number of groups, with the whole counted. -/
  count : Nat := 1
  /-- The numbers of groups that have names. -/
  names : List (String × Nat) := []
  /-- The widths of the groups that are closed. -/
  closed : List (Nat × Width) := []
  /-- The number of groups known when the outermost look-behind began. -/
  behind : Option Nat := none
  /-- The groups that conditions ask for. -/
  asked : List Nat := []
  /-- Switches for the whole expression exclude each other. -/
  clash : Bool := false

namespace Groups

/-- A group that can be referred to here. -/
def referable (groups : Groups) (index : Nat) : Bool :=
  (groups.closed.lookup index).isSome && groups.behind.all (index < ·)

end Groups

/-- Sequence of the pieces, which are given last first. -/
def assemble (pieces : List Piece) : Regex × Width :=
  pieces.foldl
    (fun acc piece =>
      (match acc.1 with
        | .empty => piece.regex
        | rest => .seq piece.regex rest, piece.width.add acc.2))
    (.empty, .zero)

/-- The value of a digit in a base. -/
def digitIn? (base : Nat) (c : Char) : Option Nat :=
  let value? :=
    if c.isDigit then some (c.toNat - 48)
    else if 'a' ≤ c && c ≤ 'f' then some (c.toNat - 87)
    else if 'A' ≤ c && c ≤ 'F' then some (c.toNat - 55)
    else none
  value?.filter (· < base)

/-- At most `limit` digits: their values and what follows them. -/
def takeDigits (base : Nat) : Nat → List Token → List Nat × List Token
  | limit + 1, .plain c :: rest =>
    match digitIn? base c with
    | some d => let (more, left) := takeDigits base limit rest; (d :: more, left)
    | none => ([], .plain c :: rest)
  | _, left => ([], left)

/-- The number that digits write. -/
def ofDigits (base : Nat) (digits : List Nat) : Nat := digits.foldl (· * base + ·) 0

/-- Exactly `count` hexadecimal digits, as a code point. -/
def hexCode (count : Nat) (left : List Token) : Except ParseError (Nat × List Token) :=
  let (digits, rest) := takeDigits 16 count left
  let code := ofDigits 16 digits
  if digits.length == count && code < 0x110000 then .ok (code, rest) else .error .malformed

/-- The characters up to a terminator, which must come and have something before it. -/
def takeUntil (terminator : Char) : List Token → Except ParseError (List Char × List Token)
  | [] => .error .malformed
  | .plain c :: rest =>
    if c == terminator then .ok ([], rest)
    else do let (name, left) ← takeUntil terminator rest; pure (c :: name, left)
  | .escaped c :: rest => do
    let (name, left) ← takeUntil terminator rest; pure ('\\' :: c :: name, left)

/-- A name between the place and a terminator. -/
def takeName (terminator : Char) (left : List Token) :
    Except ParseError (String × List Token) := do
  let (name, rest) ← takeUntil terminator left
  if name.isEmpty then .error .malformed else pure (String.ofList name, rest)

/-- A name in braces, as a code point. -/
def namedCode (left : List Token) : Except ParseError (Nat × List Token) :=
  match left with
  | .plain c :: rest =>
    if c == Char.ofNat 0x7b then do
      let (name, after) ← takeName (Char.ofNat 0x7d) rest
      match Text.charNamed? name with
      | some code => pure (code, after)
      | none => .error .malformed
    else .error .malformed
  | _ => .error .malformed

/-- A group name starts with a letter or the underscore. -/
def isIdentifier (name : String) : Bool :=
  match name.toList with
  | [] => false
  | c :: rest => Text.isWord c && (Text.decimalValue? c).isNone && rest.all Text.isWord

/-- Escapes that stand for a control character, or the backslash. -/
def controlEscape? : Char → Option Nat
  | 'a' => some 7
  | 'f' => some 12
  | 'n' => some 10
  | 'r' => some 13
  | 't' => some 9
  | 'v' => some 11
  | '\\' => some 92
  | _ => none

/-- Escapes that stand for a class. -/
def categoryEscape? (asciiOnly : Bool) : Char → Option ClassItem
  | 'd' => some (.category .digit false asciiOnly)
  | 'D' => some (.category .digit true asciiOnly)
  | 's' => some (.category .blank false asciiOnly)
  | 'S' => some (.category .blank true asciiOnly)
  | 'w' => some (.category .word false asciiOnly)
  | 'W' => some (.category .word true asciiOnly)
  | _ => none

/-- Escapes that stand for a place. -/
def anchorEscape? (asciiOnly : Bool) : Char → Option Anchor
  | 'A' => some .textStart
  | 'Z' => some .textEnd
  | 'b' => some (.boundary false asciiOnly)
  | 'B' => some (.boundary true asciiOnly)
  | _ => none

/-- An escape by code or by name, common to classes and to the outside of classes. -/
def codeEscape (c : Char) (left : List Token) : Except ParseError (Nat × List Token) :=
  if c == 'x' then hexCode 2 left
  else if c == 'u' then hexCode 4 left
  else if c == 'U' then hexCode 8 left
  else if c == 'N' then namedCode left
  else if c.isAlpha then .error .malformed
  else .ok (c.toNat, left)

/-- An escape inside a class. -/
def classEscape (flags : Flags) (c : Char) (left : List Token) :
    Except ParseError (ClassItem × List Token) :=
  if c == 'b' then .ok (.one 8, left)
  else match controlEscape? c, categoryEscape? flags.asciiOnly c with
    | some code, _ => .ok (.one code, left)
    | none, some item => .ok (item, left)
    | none, none =>
      match digitIn? 8 c with
      | some d =>
        let (digits, rest) := takeDigits 8 2 left
        let code := ofDigits 8 (d :: digits)
        if code ≤ 0o377 then .ok (.one code, rest) else .error .malformed
      | none =>
        if c.isDigit then .error .malformed
        else do let (code, rest) ← codeEscape c left; pure (.one code, rest)

/-- One end of a range, or a class escape. -/
def classMember (flags : Flags) (token : Token) (left : List Token) :
    Except ParseError (ClassItem × List Token) :=
  match token with
  | .plain c => .ok (.one c.toNat, left)
  | .escaped c => classEscape flags c left

/-- The rest of a bracketed class; `items` are those read so far, last first. -/
def classItems (flags : Flags) : Nat → List ClassItem → List Token →
    Except ParseError (List ClassItem × List Token)
  | 0, _, _ => .error .malformed
  | _, _, [] => .error .malformed
  | fuel + 1, items, token :: rest => do
    if token == .plain ']' && !items.isEmpty then pure (items.reverse, rest)
    else
      let (low, afterLow) ← classMember flags token rest
      match afterLow with
      | .plain '-' :: [] => .error .malformed
      | .plain '-' :: .plain ']' :: afterClass => pure ((.one 45 :: low :: items).reverse, afterClass)
      | .plain '-' :: token' :: afterDash =>
        let (high, afterHigh) ← classMember flags token' afterDash
        match low, high with
        | .one a, .one b =>
          if b < a then .error .malformed
          else classItems flags fuel (.range a b :: items) afterHigh
        | _, _ => .error .malformed
      | _ => classItems flags fuel (low :: items) afterLow

/-- A bracketed class after its opening bracket. -/
def bracketed (flags : Flags) (left : List Token) : Except ParseError (CharTest × List Token) := do
  let (negated, inside) :=
    match left with
    | .plain '^' :: rest => (true, rest)
    | _ => (false, left)
  let (items, rest) ← classItems flags (inside.length + 1) [] inside
  pure (.set negated items flags.fold, rest)

/-- A piece that takes one character. -/
def unitPiece (test : CharTest) : Piece := ⟨.one test, .unit, .plain⟩

/-- A piece that takes the given character. -/
def literalPiece (flags : Flags) (code : Nat) : Piece :=
  unitPiece (.set false [.one code] flags.fold)

/-- A reference back to a group. -/
def backReference (flags : Flags) (groups : Groups) (index : Nat) : Except ParseError Piece :=
  if groups.referable index then
    .ok ⟨.same index flags.fold, (groups.closed.lookup index).getD .zero, .plain⟩
  else .error .malformed

/-- An escape outside classes. -/
def outerEscape (flags : Flags) (groups : Groups) (c : Char) (left : List Token) :
    Except ParseError (Piece × List Token) :=
  match anchorEscape? flags.asciiOnly c, categoryEscape? flags.asciiOnly c, controlEscape? c with
  | some anchor, _, _ => .ok (⟨.at anchor, .zero, .anchor⟩, left)
  | none, some item, _ => .ok (unitPiece (.set false [item] .exact), left)
  | none, none, some code => .ok (literalPiece flags code, left)
  | none, none, none =>
    if c == '0' then
      let (digits, rest) := takeDigits 8 2 left
      .ok (literalPiece flags (ofDigits 8 digits), rest)
    else if c.isDigit then
      let (second, _) := takeDigits 10 1 left
      let (octal, afterOctal) := takeDigits 8 2 left
      match digitIn? 8 c, octal with
      | some d, [_, _] =>
        let code := ofDigits 8 (d :: octal)
        if code ≤ 0o377 then .ok (literalPiece flags code, afterOctal) else .error .malformed
      | _, _ => do
        let piece ← backReference flags groups (ofDigits 10 ((c.toNat - 48) :: second))
        pure (piece, left.drop second.length)
    else do
      let (code, rest) ← codeEscape c left
      pure (literalPiece flags code, rest)

/-- The most that a repetition may ask for, plus one. -/
def repetitionLimit : Nat := 4294967295

/-- An integer is read from no more digits than this. -/
def countDigits : Nat := 4300

/-- The counts of a quantifier in braces and what follows it, or nothing if these are no counts. -/
def braces (left : List Token) : Except ParseError (Option (Nat × Option Nat × List Token)) :=
  let close := Token.plain (Char.ofNat 0x7d)
  let (low, afterLow) := takeDigits 10 left.length left
  let (high, rest) :=
    match afterLow with
    | .plain ',' :: more => takeDigits 10 more.length more
    | _ => (low, afterLow)
  match rest with
  | token :: after =>
    if token != close || left.head? == some close then .ok none
    else
      let least := ofDigits 10 low
      let most := if high.isEmpty then none else some (ofDigits 10 high)
      if low.length > countDigits then .error (.countTooLong low.length)
      else if least ≥ repetitionLimit then .error .repetitionTooLarge
      else if high.length > countDigits then .error (.countTooLong high.length)
      else if most.any (· ≥ repetitionLimit) then .error .repetitionTooLarge
      else if most.any (· < least) then .error .malformed
      else .ok (some (least, most, after))
  | [] => .ok none

/-- Applies a quantifier to the latest piece. -/
def quantify (least : Nat) (most : Option Nat) (pieces : List Piece) (left : List Token) :
    Except ParseError (List Piece × List Token) :=
  match pieces with
  | [] => .error .malformed
  | piece :: earlier =>
    if piece.kind != .plain then .error .malformed
    else
      let (eagerness, rest) :=
        match left with
        | .plain '?' :: more => (Eagerness.reluctant, more)
        | .plain '+' :: more => (.possessive, more)
        | _ => (.greedy, left)
      .ok (⟨.repeated eagerness least most piece.regex, piece.width.times least most, .repetition⟩
        :: earlier, rest)

/-- The switch that a letter names, turned on or off. -/
def Flags.switch? (flags : Flags) (on : Bool) : Char → Option Flags
  | 'i' => some { flags with ignoreCase := on }
  | 'm' => some { flags with multiline := on }
  | 's' => some { flags with dotAll := on }
  | 'x' => some { flags with verbose := on }
  | 'a' => if on then some { flags with asciiOnly := true, unicode := false } else none
  | 'u' => if on then some { flags with asciiOnly := false, unicode := true } else none
  | _ => none

/-- The switches of one text for the whole expression exclude those of an earlier one. -/
def Flags.clash (earlier later : Flags) : Bool :=
  (earlier.asciiOnly && later.unicode) || (earlier.unicode && later.asciiOnly)

/-- Letters of switches up to a character that ends them. -/
def takeSwitches : List Token → List Char × List Token
  | .plain c :: rest =>
    if "imsxau".toList.contains c then
      let (more, left) := takeSwitches rest; (c :: more, left)
    else ([], .plain c :: rest)
  | left => ([], left)

/-- Turns the switches of the letters. -/
def Flags.switchAll (flags : Flags) (on : Bool) (letters : List Char) : Except ParseError Flags :=
  letters.foldlM (fun f c => match f.switch? on c with
    | some f' => .ok f'
    | none => .error .malformed) flags

/-- What inline switches are for: all that follows, or one group. -/
inductive Switches where
  | everywhere (flags : Flags)
  | inGroup (flags : Flags)

/-- Inline switches after the question mark. -/
def inlineSwitches (flags : Flags) (left : List Token) :
    Except ParseError (Switches × List Token) := do
  let (on, afterOn) := takeSwitches left
  if on.contains 'a' && on.contains 'u' then .error .malformed
  let turned ← flags.switchAll true on
  match afterOn with
  | .plain ')' :: rest => if on.isEmpty then .error .malformed else pure (.everywhere turned, rest)
  | .plain ':' :: rest => if on.isEmpty then .error .malformed else pure (.inGroup turned, rest)
  | .plain '-' :: more =>
    let (off, afterOff) := takeSwitches more
    if off.isEmpty || off.any on.contains then .error .malformed
    let final ← turned.switchAll false off
    match afterOff with
    | .plain ':' :: rest => pure (.inGroup final, rest)
    | _ => .error .malformed
  | _ => .error .malformed

/-- What follows a comment group. -/
def skipComment : List Token → Except ParseError (List Token)
  | [] => .error .malformed
  | .plain ')' :: rest => .ok rest
  | _ :: rest => skipComment rest

/-- What follows a comment that runs to the end of its line. -/
def skipLine : List Token → List Token
  | [] => []
  | .plain '\n' :: rest => rest
  | _ :: rest => skipLine rest

/-- The group that a condition names, by number or by name. -/
def conditionGroup (groups : Groups) (name : String) : Except ParseError (Nat × Groups) :=
  if isIdentifier name then
    match groups.names.lookup name with
    | some index => .ok (index, groups)
    | none => .error .malformed
  else
    let digits := name.toList.map fun c => if c.isDigit then some (c.toNat - 48) else none
    match digits.mapM id with
    | some values =>
      let index := ofDigits 10 values
      if index == 0 then .error .malformed
      else .ok (index, { groups with asked := index :: groups.asked })
    | none => .error .malformed

/-- The closing parenthesis of a group. -/
def closing : List Token → Except ParseError (List Token)
  | .plain ')' :: rest => .ok rest
  | _ => .error .malformed

/-- What stands between the opening parenthesis of a group and its contents. -/
inductive Opening where
  | capture (name : Option String)
  | plain (flags : Flags)
  | atomic
  | look (behind negated : Bool)
  | condition (name : String)
  | reference (name : String)
  | comment
  | switches (flags : Flags)

/-- Reads what opens a group. -/
def opening (flags : Flags) : List Token → Except ParseError (Opening × List Token)
  | .plain '?' :: .plain 'P' :: .plain '<' :: rest => do
    let (name, left) ← takeName '>' rest
    if isIdentifier name then pure (.capture (some name), left) else .error .malformed
  | .plain '?' :: .plain 'P' :: .plain '=' :: rest => do
    let (name, left) ← takeName ')' rest
    pure (.reference name, left)
  | .plain '?' :: .plain ':' :: rest => .ok (.plain flags, rest)
  | .plain '?' :: .plain '#' :: rest => do pure (.comment, ← skipComment rest)
  | .plain '?' :: .plain '=' :: rest => .ok (.look false false, rest)
  | .plain '?' :: .plain '!' :: rest => .ok (.look false true, rest)
  | .plain '?' :: .plain '<' :: .plain '=' :: rest => .ok (.look true false, rest)
  | .plain '?' :: .plain '<' :: .plain '!' :: rest => .ok (.look true true, rest)
  | .plain '?' :: .plain '(' :: rest => do
    let (name, left) ← takeName ')' rest
    pure (.condition name, left)
  | .plain '?' :: .plain '>' :: rest => .ok (.atomic, rest)
  | .plain '?' :: rest => do
    let (switches, left) ← inlineSwitches flags rest
    match switches with
    | .everywhere flags' => pure (.switches flags', left)
    | .inGroup flags' => pure (.plain flags', left)
  | left => .ok (.capture none, left)

mutual

/-- Alternatives up to a closing parenthesis or the end. -/
def alternatives (fuel room : Nat) (top : Bool) (flags : Flags) (groups : Groups)
    (left : List Token) :
    Except ParseError (Regex × Width × Groups × List Token) :=
  match fuel with
  | 0 => .error .malformed
  | fuel + 1 => do
    let (pieces, flags', groups', rest) ← sequence fuel room top flags groups [] left
    let (first, width) := assemble pieces
    match rest with
    | .plain '|' :: more =>
      let (others, width', groups'', rest') ← furtherAlternatives fuel room flags' groups' more
      pure (.alt first others, width.either width', groups'', rest')
    | _ => pure (first, width, groups', rest)

/-- Alternatives after the first. -/
def furtherAlternatives (fuel room : Nat) (flags : Flags) (groups : Groups) (left : List Token) :
    Except ParseError (Regex × Width × Groups × List Token) :=
  match fuel with
  | 0 => .error .malformed
  | fuel + 1 => alternatives fuel room false flags groups left

/-- Pieces up to a bar, a closing parenthesis or the end, last first. Switches for all that follows
are allowed only where nothing of the whole expression precedes them, which `first` tells. -/
def sequence (fuel room : Nat) (first : Bool) (flags : Flags) (groups : Groups)
    (pieces : List Piece) (left : List Token) : Except ParseError (List Piece × Flags × Groups × List Token) :=
  match fuel with
  | 0 => .error .malformed
  | fuel + 1 =>
    match left with
    | [] => .ok (pieces, flags, groups, [])
    | .escaped c :: rest => do
      let (piece, rest') ← outerEscape flags groups c rest
      sequence fuel room first flags groups (piece :: pieces) rest'
    | .plain c :: rest =>
      if c == '|' || c == ')' then .ok (pieces, flags, groups, left)
      else if flags.verbose && Text.isPlainBlank c then sequence fuel room first flags groups pieces rest
      else if flags.verbose && c == '#' then
        sequence fuel room first flags groups pieces (skipLine rest)
      else if c == '[' then do
        let (test, rest') ← bracketed flags rest
        sequence fuel room first flags groups (unitPiece test :: pieces) rest'
      else if c == '*' then do
        let (pieces', rest') ← quantify 0 none pieces rest
        sequence fuel room first flags groups pieces' rest'
      else if c == '+' then do
        let (pieces', rest') ← quantify 1 none pieces rest
        sequence fuel room first flags groups pieces' rest'
      else if c == '?' then do
        let (pieces', rest') ← quantify 0 (some 1) pieces rest
        sequence fuel room first flags groups pieces' rest'
      else if c == Char.ofNat 0x7b then do
        match ← braces rest with
        | none => sequence fuel room first flags groups (literalPiece flags c.toNat :: pieces) rest
        | some (least, most, after) =>
          let (pieces', rest') ← quantify least most pieces after
          sequence fuel room first flags groups pieces' rest'
      else if c == '.' then
        let test := if flags.dotAll then CharTest.any else .exceptNewline
        sequence fuel room first flags groups (unitPiece test :: pieces) rest
      else if c == '^' then
        let anchor := if flags.multiline then Anchor.lineStart else .textStart
        sequence fuel room first flags groups (⟨.at anchor, .zero, .anchor⟩ :: pieces) rest
      else if c == '$' then
        let anchor := if flags.multiline then Anchor.lineEnd else .lastLineEnd
        sequence fuel room first flags groups (⟨.at anchor, .zero, .anchor⟩ :: pieces) rest
      else if c == '(' then do
        let (opened, inside) ← opening flags rest
        match opened with
        | .comment => sequence fuel room first flags groups pieces inside
        | .switches flags' =>
          if first && pieces.isEmpty then
            let clash := groups.clash || flags.clash flags'
            sequence fuel room first flags' { groups with clash := clash } pieces inside
          else .error .malformed
        | .reference name =>
          match groups.names.lookup name with
          | none => .error .malformed
          | some index =>
            let piece ← backReference flags groups index
            sequence fuel room first flags groups (piece :: pieces) inside
        | _ =>
          let (piece, groups', rest') ← grouped fuel room flags groups opened inside
          sequence fuel room first flags groups' (piece :: pieces) rest'
      else sequence fuel room first flags groups (literalPiece flags c.toNat :: pieces) rest

/-- The contents of a group and its closing parenthesis. -/
def grouped (fuel room : Nat) (flags : Flags) (groups : Groups) (opened : Opening)
    (left : List Token) :
    Except ParseError (Piece × Groups × List Token) :=
  match fuel, room with
  | 0, _ => .error .malformed
  | _, 0 => .error .tooDeep
  | fuel + 1, room + 1 => do
    match opened with
    | .capture name =>
      let index := groups.count
      let named ← match name with
        | none => pure groups.names
        | some n =>
          if (groups.names.lookup n).isSome then .error .malformed
          else pure ((n, index) :: groups.names)
      let (body, width, groups', rest) ←
        alternatives fuel room false flags { groups with count := index + 1, names := named } left
      let rest' ← closing rest
      pure (⟨.group index body, width, .plain⟩,
        { groups' with closed := (index, width) :: groups'.closed }, rest')
    | .plain flags' =>
      let (body, width, groups', rest) ← alternatives fuel room false flags' groups left
      pure (⟨body, width, .plain⟩, groups', ← closing rest)
    | .atomic =>
      let (body, width, groups', rest) ← alternatives fuel room false flags groups left
      pure (⟨.atomic body, width, .plain⟩, groups', ← closing rest)
    | .look false negated =>
      let (body, _, groups', rest) ← alternatives fuel room false flags groups left
      pure (⟨.ahead negated body, .zero, .plain⟩, groups', ← closing rest)
    | .look true negated =>
      let (body, width, groups', rest) ← alternatives fuel room false flags
        { groups with behind := some (groups.behind.getD groups.count) } left
      let rest' ← closing rest
      if width.most == some width.least then
        pure (⟨.behind negated width.least body, .zero, .plain⟩,
          { groups' with behind := groups.behind }, rest')
      else .error .malformed
    | .condition name =>
      let (index, groups₁) ← conditionGroup groups name
      if groups₁.behind.isSome && !groups₁.referable index then .error .malformed
      let (yes, _, groups₂, rest) ← sequence fuel room false flags groups₁ [] left
      let (yesBody, yesWidth) := assemble yes
      match rest with
      | .plain '|' :: more =>
        let (no, _, groups₃, rest') ← sequence fuel room false flags groups₂ [] more
        let (noBody, noWidth) := assemble no
        pure (⟨.ifGroup index yesBody noBody, yesWidth.either noWidth, .plain⟩, groups₃,
          ← closing rest')
      | _ =>
        pure (⟨.ifGroup index yesBody .empty, yesWidth.either .zero, .plain⟩, groups₂,
          ← closing rest)
    | _ => .error .malformed

end

/-- Groups may be nested so deep, which is as far as the calls that read them may be nested. -/
def nestingLimit : Nat := 487

/-- Reads a regular expression under the given switches. -/
def parse (flags : Flags) (pattern : String) : Except ParseError Regex :=
  match tokens? pattern.toList with
  | none => .error .malformed
  | some tokens => do
    let (regex, _, groups, rest) ←
      alternatives (4 * tokens.length + 8) nestingLimit true flags {} tokens
    if groups.clash then .error .switchesClash
    else if !rest.isEmpty || groups.asked.any (· ≥ groups.count) then .error .malformed
    else pure regex

end Hazard.Regex
