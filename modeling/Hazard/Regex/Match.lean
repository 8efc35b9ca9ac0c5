import Hazard.Regex.Basic

/-!
Ordered matching. `Regex.run` tries the ways an expression fits at a place, in order of preference,
and hands each to a continuation until one is accepted; a search takes the leftmost place with a fit.
A round of a repetition that starts where the round before it started ends the repetition, so every
loop is bounded by the text that is left.
-/

namespace Hazard.Regex

/-- What a group caught. -/
structure Capture where
  /-- The number of characters before it. -/
  start : Nat
  /-- The number of characters up to its end. -/
  stop : Nat
  /-- The characters. -/
  text : List Char
deriving DecidableEq, Repr

/-- A place in a text, with the groups so far. -/
structure Cursor where
  /-- The number of characters before the place. -/
  position : Nat
  /-- The characters before the place, nearest first. -/
  before : List Char
  /-- The characters after the place. -/
  after : List Char
  /-- What the groups caught, latest first. -/
  groups : List (Nat × Capture)
deriving DecidableEq, Repr

/-- What remains to be matched, as a partial function on places. -/
abbrev Continuation := Cursor → Option Cursor

namespace Cursor

/-- The start of a text. -/
def start (text : List Char) : Cursor := ⟨0, [], text, []⟩

/-- One character further. -/
def step (cursor : Cursor) : Option (Char × Cursor) :=
  match cursor.after with
  | [] => none
  | c :: rest => some (c, { cursor with position := cursor.position + 1,
                                        before := c :: cursor.before, after := rest })

/-- `count` characters back, if there are as many. -/
def back : Nat → Cursor → Option Cursor
  | 0, cursor => some cursor
  | count + 1, cursor =>
    match cursor.before with
    | [] => none
    | c :: rest => back count { cursor with position := cursor.position - 1, before := rest,
                                            after := c :: cursor.after }

/-- What the group last caught. -/
def captured (cursor : Cursor) (index : Nat) : Option Capture := cursor.groups.lookup index

/-- Records that a group runs from `origin` to here. -/
def capture (cursor : Cursor) (index : Nat) (origin : Cursor) : Cursor :=
  let found : Capture :=
    { start := origin.position, stop := cursor.position,
      text := origin.after.take (cursor.position - origin.position) }
  { cursor with groups := (index, found) :: cursor.groups }

/-- The anchor holds at the place. -/
def satisfies (cursor : Cursor) : Anchor → Bool
  | .textStart => cursor.before.isEmpty
  | .lineStart => cursor.before.isEmpty || cursor.before.head? == some '\n'
  | .textEnd => cursor.after.isEmpty
  | .lastLineEnd => cursor.after.isEmpty || cursor.after == ['\n']
  | .lineEnd => cursor.after.isEmpty || cursor.after.head? == some '\n'
  | .boundary negated asciiOnly =>
    let isWord (c : Option Char) : Bool :=
      c.any fun d => if asciiOnly then Category.word.containsAscii d else Category.word.contains d
    !(cursor.before.isEmpty && cursor.after.isEmpty) &&
      (isWord cursor.before.head? != isWord cursor.after.head?) != negated

/-- Moves over a text that agrees with the given one under the comparison. -/
def follow (fold : Fold) : List Char → Cursor → Option Cursor
  | [], cursor => some cursor
  | wanted :: rest, cursor =>
    match cursor.step with
    | none => none
    | some (c, next) => if fold.image c == fold.image wanted then follow fold rest next else none

end Cursor

/-- Exactly `count` rounds. -/
def rounds (body : Continuation → Continuation) (next : Continuation) : Nat → Continuation
  | 0 => next
  | count + 1 => body (rounds body next count)

/-- At most `fuel` rounds, preferring more; `last` is where the latest of them started. -/
def greedyRounds (body : Continuation → Continuation) (next : Continuation) :
    Nat → Option Nat → Continuation
  | 0, _, cursor => next cursor
  | fuel + 1, last, cursor =>
    if last == some cursor.position then next cursor
    else (body (greedyRounds body next fuel (some cursor.position)) cursor).or (next cursor)

/-- At most `fuel` rounds, preferring fewer. -/
def reluctantRounds (body : Continuation → Continuation) (next : Continuation) :
    Nat → Option Nat → Continuation
  | 0, _, cursor => next cursor
  | fuel + 1, last, cursor =>
    match next cursor with
    | some found => some found
    | none =>
      if last == some cursor.position then none
      else body (reluctantRounds body next fuel (some cursor.position)) cursor

/-- At most `fuel` rounds, each taken at its first fit and never reconsidered. -/
def firmRounds (body : Continuation → Continuation) : Nat → Option Nat → Cursor → Cursor
  | 0, _, cursor => cursor
  | fuel + 1, last, cursor =>
    if last == some cursor.position then cursor
    else match body some cursor with
      | some next => firmRounds body fuel (some cursor.position) next
      | none => cursor

/-- Exactly `count` rounds, each taken at its first fit. -/
def firmly (body : Continuation → Continuation) : Nat → Cursor → Option Cursor
  | 0, cursor => some cursor
  | count + 1, cursor => (body some cursor).bind (firmly body count)

/-- A bound on the rounds beyond the least number that can make progress here. -/
def furtherRounds (least : Nat) (most : Option Nat) (cursor : Cursor) : Nat :=
  match most with
  | none => cursor.after.length + 2
  | some limit => min (limit - least) (cursor.after.length + 2)

/-- The most preferred way to fit the expression here such that what remains accepts it. -/
def run : Regex → Continuation → Continuation
  | .empty, next, cursor => next cursor
  | .one test, next, cursor =>
    match cursor.step with
    | none => none
    | some (c, further) => if test.accepts c then next further else none
  | .at anchor, next, cursor => if cursor.satisfies anchor then next cursor else none
  | .seq first second, next, cursor => first.run (second.run next) cursor
  | .alt first second, next, cursor => (first.run next cursor).or (second.run next cursor)
  | .repeated .greedy least most body, next, cursor =>
    rounds body.run (fun c => greedyRounds body.run next (furtherRounds least most c) none c)
      least cursor
  | .repeated .reluctant least most body, next, cursor =>
    rounds body.run (fun c => reluctantRounds body.run next (furtherRounds least most c) none c)
      least cursor
  | .repeated .possessive least most body, next, cursor =>
    match firmly body.run least cursor with
    | none => none
    | some c => next (firmRounds body.run (furtherRounds least most c) none c)
  | .group index body, next, cursor => body.run (fun c => next (c.capture index cursor)) cursor
  | .atomic body, next, cursor => (body.run some cursor).bind next
  | .ahead negated body, next, cursor =>
    match body.run some cursor, negated with
    | some found, false => next { cursor with groups := found.groups }
    | none, true => next cursor
    | _, _ => none
  | .behind negated width body, next, cursor =>
    match (cursor.back width).bind (body.run some), negated with
    | some found, false => next { cursor with groups := found.groups }
    | none, true => next cursor
    | _, _ => none
  | .same index fold, next, cursor =>
    match cursor.captured index with
    | none => none
    | some found => (cursor.follow fold found.text).bind next
  | .ifGroup index yes no, next, cursor =>
    if (cursor.captured index).isSome then yes.run next cursor else no.run next cursor

/-- A fit of an expression in a text. -/
structure Match where
  /-- The number of characters before the fit. -/
  start : Nat
  /-- The place after the fit. -/
  finish : Cursor
  /-- The characters that fit. -/
  text : List Char

namespace Match

/-- The end of the fit. -/
def stop (found : Match) : Nat := found.finish.position

/-- What a group of the fit caught, if it took part. -/
def group? (found : Match) (index : Nat) : Option (List Char) :=
  (found.finish.captured index).map (·.text)

/-- What a group of the fit caught, nothing if it took no part. -/
def group (found : Match) (index : Nat) : List Char :=
  match found.finish.captured index with
  | some capture => capture.text
  | none => []

/-- The fit from `origin` to `finish`. -/
def between (origin finish : Cursor) : Match :=
  { start := origin.position, finish := finish,
    text := origin.after.take (finish.position - origin.position) }

end Match

/-- The fit that starts at the place. -/
def matchAt (r : Regex) (cursor : Cursor) : Option Match :=
  (r.run some cursor).map (Match.between cursor)

/-- The fit that starts at the start of the text. -/
def matchStart (r : Regex) (text : List Char) : Option Match := r.matchAt (.start text)

/-- The leftmost fit at or after a place, given by the characters on either side of it. -/
def searchFrom (r : Regex) (position : Nat) (before : List Char) : List Char → Option Match
  | [] => r.matchAt ⟨position, before, [], []⟩
  | c :: rest =>
    (r.matchAt ⟨position, before, c :: rest, []⟩).or (searchFrom r (position + 1) (c :: before) rest)

/-- The leftmost fit in the text. -/
def search (r : Regex) (text : List Char) : Option Match := r.searchFrom 0 [] text

/-- The expression fits somewhere in the text. -/
def occursIn (r : Regex) (text : List Char) : Bool := (r.search text).isSome

/-- The leftmost fit from a place on, which must not be empty if it starts there. -/
def searchBeyond (r : Regex) (cursor : Cursor) : Option Match :=
  let fresh := { cursor with groups := [] }
  let moving : Continuation := fun c => if c.position == cursor.position then none else some c
  match r.run moving fresh with
  | some finish => some (Match.between fresh finish)
  | none =>
    match cursor.step with
    | none => none
    | some (_, next) => r.searchFrom next.position next.before next.after

/-- The fits from a place on, left to right; after an empty fit the next one must move on. -/
def fitsFrom (r : Regex) : Nat → Bool → Cursor → List Match
  | 0, _, _ => []
  | fuel + 1, mustMove, cursor =>
    let found :=
      if mustMove then r.searchBeyond cursor
      else r.searchFrom cursor.position cursor.before cursor.after
    match found with
    | none => []
    | some m => m :: fitsFrom r fuel (m.start == m.stop) m.finish

/-- All fits in the text that do not overlap, left to right. -/
def findAll (r : Regex) (text : List Char) : List Match :=
  r.fitsFrom (2 * text.length + 2) false (.start text)

end Hazard.Regex
