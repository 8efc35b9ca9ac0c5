import Hazard.Data.Yaml.Layout
import Hazard.Data.Yaml.Schema

/-!
From tokens to nodes: scalars, sequences and mappings with their tags. An alias is the node of its
anchor; inside the node of its anchor it is a node that recurs.
-/

namespace Hazard.Yaml

/-- The nodes of a YAML text. -/
inductive Node where
  | scalar (tag : Tag) (text : List Char)
  | sequence (tag : Tag) (items : List Node)
  | mapping (tag : Tag) (entries : List (Node × Node))
  /-- A sequence or a mapping, where it recurs inside itself. -/
  | recurring
deriving Repr

namespace Node

/-- The absent value. -/
def empty : Node := .scalar .null []

/-- The tag of a node. -/
def tag : Node → Tag
  | .scalar tag _ => tag
  | .sequence tag _ => tag
  | .mapping tag _ => tag
  | .recurring => .unknown

/-- How far tokens have been read. -/
structure Progress where
  /-- The tokens that are left. -/
  left : List Token
  /-- The names that anchors have taken. -/
  taken : List String
  /-- The nodes of the anchors that are complete. -/
  known : List (String × Node)
  /-- How many sequences and mappings may still be nested in one another. -/
  room : Nat

namespace Progress

/-- The next token is one of those that a test admits. -/
def sees (progress : Progress) (test : Token → Bool) : Bool := progress.left.head?.any test

/-- One token further. -/
def next (progress : Progress) : Progress := { progress with left := progress.left.drop 1 }

/-- The next token does not fit: it tells what is wrong, or the text is malformed. -/
def refuse {α : Type} (progress : Progress) : Except ReadError α :=
  match progress.left with
  | .fault fault :: _ => .error fault
  | _ => .error .malformed

/-- The node of an anchor by its name. -/
def resolve (progress : Progress) (name : String) : Except ReadError Node :=
  match progress.known.lookup name with
  | some node => .ok node
  | none => if progress.taken.contains name then .ok .recurring else .error .malformed

/-- A name is taken by an anchor, which no other may have. -/
def take (progress : Progress) : Option String → Except ReadError Progress
  | some name =>
    if progress.taken.contains name then .error .malformed
    else .ok { progress with taken := name :: progress.taken }
  | none => .ok progress

/-- Into one more sequence or mapping. -/
def enter (progress : Progress) : Except ReadError Progress :=
  match progress.room with
  | room + 1 => .ok { progress with room := room }
  | 0 => .error .tooDeep

/-- Out of a sequence or a mapping that was entered. -/
def leave (progress : Progress) : Progress := { progress with room := progress.room + 1 }

end Progress

/-- What may be written in front of a node. -/
structure Properties where
  anchor : Option String
  tag : Option TagText

/-- The anchor and the tag in front of a node, in either order. -/
def properties : List Token → Properties × List Token
  | .anchor name :: .tag text :: rest => (⟨some name, some text⟩, rest)
  | .tag text :: .anchor name :: rest => (⟨some name, some text⟩, rest)
  | .anchor name :: rest => (⟨some name, none⟩, rest)
  | .tag text :: rest => (⟨none, some text⟩, rest)
  | tokens => (⟨none, none⟩, tokens)

/-- The full name of a tag, by the handles of the document; there may be no tag. -/
def tagName (handles : List (String × String)) : Option TagText → Except ReadError (Option String)
  | some text =>
    match text.handle with
    | some handle => (present (handles.lookup handle)).map fun base => some (base ++ text.suffix)
    | none => .ok (some text.suffix)
  | none => .ok none

/-- The tag that is written, if there is one and it says anything. -/
def explicitTag? (name : Option String) : Option Tag :=
  match name with
  | some name => if name == "!" then none else some (.ofName name)
  | none => none

/-- The tag of a scalar: the written one, or what its form says. Quotes make a text, unless there is
a tag that says nothing. -/
def scalarTag (name : Option String) (text : List Char) (isPlain : Bool) : Tag :=
  match explicitTag? name with
  | some tag => tag
  | none => if isPlain || name.isSome then .ofPlain text else .str

/-- Registers the node of an anchor. -/
def register (anchor : Option String) (node : Node) (progress : Progress) : Progress :=
  match anchor with
  | some name => { progress with known := (name, node) :: progress.known }
  | none => progress

/-- Where a node stands: among brackets, in a block, or as a part of a block mapping, where a
sequence need not be indented. -/
inductive Context where
  | flow
  | block
  | mappingPart
deriving DecidableEq, Repr

/-- The token ends a part of a block mapping. -/
def endsBlockPart : Token → Bool
  | .key => true
  | .value => true
  | .blockEnd => true
  | _ => false

/-- The token ends a part of an entry among brackets that the second token closes. -/
def endsFlowPart (close : Token) (token : Token) : Bool := token == .flowEntry || token == close

/-- How many sequences and mappings may be nested in one another. -/
def levelLimit : Nat := 485

mutual

/-- A node; the number bounds the steps. -/
def take (handles : List (String × String)) (context : Context) :
    Nat → Progress → Except ReadError (Node × Progress)
  | 0, _ => .error .malformed
  | steps + 1, progress =>
    match progress.left with
    | .alias name :: _ => (progress.resolve name).map fun node => (node, progress.next)
    | tokens => do
      let (found, rest) := properties tokens
      let name ← tagName handles found.tag
      let inside ← { progress with left := rest }.take found.anchor
      let (node, after) ← takeContent handles context name
        (found.anchor.isSome || found.tag.isSome) steps inside
      pure (node, register found.anchor node after)

/-- The node after its properties. -/
def takeContent (handles : List (String × String)) (context : Context) (name : Option String)
    (hasProperties : Bool) : Nat → Progress → Except ReadError (Node × Progress)
  | 0, _ => .error .malformed
  | steps + 1, progress =>
    match progress.left with
    | .scalar text isPlain :: _ => .ok (.scalar (scalarTag name text isPlain) text, progress.next)
    | .fault fault :: _ => .error fault
    | .flowSequenceStart :: _ => do
      let (items, after) ← takeFlowItems handles true steps (← progress.next.enter)
      pure (.sequence ((explicitTag? name).getD .seq) items, after.leave)
    | .flowMappingStart :: _ => do
      let (entries, after) ← takeFlowEntries handles true steps (← progress.next.enter)
      pure (.mapping ((explicitTag? name).getD .map) entries, after.leave)
    | token :: _ =>
      if token == .blockEntry && context == .mappingPart then do
        let (items, after) ← takeItems handles false steps (← progress.enter)
        pure (.sequence ((explicitTag? name).getD .seq) items, after.leave)
      else if token == .blockSequenceStart && context != .flow then do
        let (items, after) ← takeItems handles true steps (← progress.next.enter)
        pure (.sequence ((explicitTag? name).getD .seq) items, after.leave)
      else if token == .blockMappingStart && context != .flow then do
        let (entries, after) ← takeEntries handles steps (← progress.next.enter)
        pure (.mapping ((explicitTag? name).getD .map) entries, after.leave)
      else if hasProperties then .ok (.scalar (scalarTag name [] true) [], progress)
      else .error .malformed
    | [] =>
      if hasProperties then .ok (.scalar (scalarTag name [] true) [], progress)
      else .error .malformed

/-- The items of a block sequence; an indented one has an end of its own. -/
def takeItems (handles : List (String × String)) (indented : Bool) :
    Nat → Progress → Except ReadError (List Node × Progress)
  | 0, _ => .error .malformed
  | steps + 1, progress =>
    if progress.sees (· == .blockEntry) then do
      let inside := progress.next
      let ends (token : Token) : Bool :=
        token == .blockEntry || token == .blockEnd || (!indented && endsBlockPart token)
      let (item, after) ←
        if inside.sees ends then .ok (empty, inside) else take handles .block steps inside
      let (items, final) ← takeItems handles indented steps after
      pure (item :: items, final)
    else if !indented then .ok ([], progress)
    else if progress.sees (· == .blockEnd) then .ok ([], progress.next)
    else progress.refuse

/-- The entries of a block mapping. -/
def takeEntries (handles : List (String × String)) :
    Nat → Progress → Except ReadError (List (Node × Node) × Progress)
  | 0, _ => .error .malformed
  | steps + 1, progress =>
    if progress.sees (· == .key) then do
      let inside := progress.next
      let (key, afterKey) ←
        if inside.sees endsBlockPart then .ok (empty, inside)
        else take handles .mappingPart steps inside
      takeEntryValue handles key steps afterKey
    else if progress.sees (· == .value) then takeEntryValue handles empty steps progress
    else if progress.sees (· == .blockEnd) then .ok ([], progress.next)
    else progress.refuse

/-- The value of an entry of a block mapping, and the entries after it. -/
def takeEntryValue (handles : List (String × String)) (key : Node) :
    Nat → Progress → Except ReadError (List (Node × Node) × Progress)
  | 0, _ => .error .malformed
  | steps + 1, progress => do
    let (value, after) ←
      if progress.sees (· == .value) then
        let inside := progress.next
        if inside.sees endsBlockPart then .ok (empty, inside)
        else take handles .mappingPart steps inside
      else .ok (empty, progress)
    let (entries, final) ← takeEntries handles steps after
    pure ((key, value) :: entries, final)

/-- The items of a sequence in brackets; an item may be a mapping of one entry. -/
def takeFlowItems (handles : List (String × String)) (isFirst : Bool) :
    Nat → Progress → Except ReadError (List Node × Progress)
  | 0, _ => .error .malformed
  | steps + 1, progress =>
    if progress.sees (· == .flowSequenceEnd) then .ok ([], progress.next)
    else if !isFirst && !progress.sees (· == .flowEntry) then progress.refuse
    else do
      let inside := if isFirst then progress else progress.next
      if inside.sees (· == .flowSequenceEnd) then .ok ([], inside.next)
      else if inside.sees (· == .key) then
        let ((key, value), after) ←
          takePair handles .flowSequenceEnd steps (← inside.next.enter)
        let (items, final) ← takeFlowItems handles false steps after.leave
        .ok (.mapping .map [(key, value)] :: items, final)
      else
        let (item, after) ← take handles .flow steps inside
        let (items, final) ← takeFlowItems handles false steps after
        .ok (item :: items, final)

/-- A key and its value among brackets, either of which may be absent. -/
def takePair (handles : List (String × String)) (close : Token) :
    Nat → Progress → Except ReadError ((Node × Node) × Progress)
  | 0, _ => .error .malformed
  | steps + 1, progress => do
    let (key, afterKey) ←
      if progress.sees fun token => token == .value || endsFlowPart close token then
        .ok (empty, progress)
      else take handles .flow steps progress
    let (value, after) ←
      if afterKey.sees (· == .value) then
        let inside := afterKey.next
        if inside.sees (endsFlowPart close) then .ok (empty, inside)
        else take handles .flow steps inside
      else .ok (empty, afterKey)
    pure ((key, value), after)

/-- The entries of a mapping in brackets; a node without a mark is a key without a value. -/
def takeFlowEntries (handles : List (String × String)) (isFirst : Bool) :
    Nat → Progress → Except ReadError (List (Node × Node) × Progress)
  | 0, _ => .error .malformed
  | steps + 1, progress =>
    if progress.sees (· == .flowMappingEnd) then .ok ([], progress.next)
    else if !isFirst && !progress.sees (· == .flowEntry) then progress.refuse
    else do
      let inside := if isFirst then progress else progress.next
      if inside.sees (· == .flowMappingEnd) then .ok ([], inside.next)
      else if inside.sees (· == .key) then
        let (entry, after) ← takePair handles .flowMappingEnd steps inside.next
        let (entries, final) ← takeFlowEntries handles false steps after
        .ok (entry :: entries, final)
      else
        let (key, after) ← take handles .flow steps inside
        let (entries, final) ← takeFlowEntries handles false steps after
        .ok ((key, empty) :: entries, final)

end

/-- The handles that every document knows. -/
def usualHandles : List (String × String) := [("!", "!"), ("!!", tagBase)]

/-- Directives at the start of a document: the handles they define, and whether a version has been
told. -/
def takeDirectives (hasVersion : Bool) (handles : List (String × String)) :
    List Token → Except ReadError (List (String × String) × List Token)
  | .version major :: rest =>
    if hasVersion || major != 1 then .error .malformed else takeDirectives true handles rest
  | .tagHandle handle expansion :: rest =>
    if (handles.lookup handle).isSome then .error .malformed
    else takeDirectives hasVersion ((handle, expansion) :: handles) rest
  | .otherDirective :: rest => takeDirectives hasVersion handles rest
  | tokens => .ok (handles, tokens)

/-- The token is a directive. -/
def isDirective : Token → Bool
  | .version _ => true
  | .tagHandle _ _ => true
  | .otherDirective => true
  | _ => false

/-- The token cannot begin the content of a document. -/
def endsDocument (token : Token) : Bool :=
  isDirective token || token == .documentStart || token == .documentEnd

/-- The node, if the tokens after it are over, apart from ends of documents. -/
def alone (node : Node) (progress : Progress) : Except ReadError Node :=
  let rest := { progress with left := progress.left.dropWhile (· == Token.documentEnd) }
  if rest.left.isEmpty then .ok node else rest.refuse

/-- The node of a document that was begun, with nothing after it. -/
def document (handles : List (String × String)) (tokens : List Token) : Except ReadError Node :=
  let start : Progress := ⟨tokens, [], [], levelLimit⟩
  if tokens.isEmpty || start.sees endsDocument then alone empty start
  else do
    let (node, after) ← take handles .block (3 * tokens.length + 3) start
    alone node after

/-- The one node of a text, if the text has any; a text with more than one document is refused. -/
def ofTokens (tokens : List Token) : Except ReadError (Option Node) :=
  match tokens with
  | [] => .ok none
  | first :: _ =>
    if isDirective first || first == .documentStart then do
      let (handles, rest) ← takeDirectives false [] tokens
      match rest with
      | .documentStart :: content => (document (handles ++ usualHandles) content).map some
      | .fault fault :: _ => .error fault
      | _ => .error .malformed
    else if first == .documentEnd then .error .malformed
    else (document usualHandles tokens).map some

/-- The one node of a text, if the text has any. -/
def parse (text : List Char) : Except ReadError (Option Node) := ofTokens (tokens text)

end Node

end Hazard.Yaml
