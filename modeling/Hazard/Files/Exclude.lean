import Hazard.Regex.Match
import Hazard.Regex.Parser
import Hazard.Text.Quoted
import Hazard.Text.Slice

/-!
Patterns that name files to leave out. A pattern is cut at slashes; a part of two stars crosses
directories, a pattern of one part holds at any depth, and a leading exclamation mark takes files back
in. Of several patterns the last one that matches decides.
-/

namespace Hazard.Exclude

open Regex

/-- What is wrong with a pattern. -/
inductive GlobError where
  /-- Nothing is left of it, or it ends in the middle of an escape. -/
  | invalid (pattern : String)
  /-- A bracket names a range from a later character to an earlier one. -/
  | backwardRange (pattern : String)
deriving DecidableEq, Repr

/-- The error in words. -/
def GlobError.message : GlobError → String
  | .invalid pattern => "Invalid git pattern: " ++ Text.quotedString pattern
  | .backwardRange pattern => "Backward range in pattern: " ++ Text.quotedString pattern

/-- Why a part of a pattern cannot be read. -/
inductive PartFault where
  | danglingEscape
  | backwardRange
deriving DecidableEq, Repr

/-- Anything but a slash. -/
def noSlash : Regex := noneOf .exact (members "/")

/-- The text of a bracket after its opening mark, up to and with its closing mark; a closing mark
that comes first, perhaps after a negation, belongs to the members. -/
def bracketText? (text : List Char) : Option (List Char) :=
  let negation := match text with
    | '!' :: _ => ['!']
    | '^' :: _ => ['^']
    | _ => []
  let afterNegation := text.drop negation.length
  let first := match afterNegation with
    | ']' :: _ => [']']
    | _ => []
  let rest := afterNegation.drop first.length
  let body := rest.takeWhile (· != ']')
  if body.length < rest.length then some (negation ++ first ++ body ++ [']']) else none

/-- The expression that a bracket stands for; backslashes are members like any other character. -/
def bracket? (text : List Char) : Option Regex :=
  let (negation, members) := match text with
    | '!' :: rest => (['^'], rest)
    | '^' :: rest => (['^'], rest)
    | _ => ([], text)
  let written := '[' :: negation ++ members.flatMap fun c => if c == '\\' then ['\\', '\\'] else [c]
  match Regex.parse {} (String.ofList written) with
  | .ok regex => some regex
  | .error _ => none

/-- The expressions of a part, one for each of its marks; a bracket that is not closed is a
character. The number bounds the steps. -/
def partWithin : Nat → List Char → Except PartFault (List Regex)
  | _, [] => .ok []
  | 0, _ => .ok []
  | _ + 1, ['\\'] => .error .danglingEscape
  | steps + 1, '\\' :: c :: rest => do
    let more ← partWithin steps rest
    pure (char .exact c :: more)
  | steps + 1, '*' :: rest => do
    let more ← partWithin steps rest
    pure (many noSlash :: more)
  | steps + 1, '?' :: rest => do
    let more ← partWithin steps rest
    pure (noSlash :: more)
  | steps + 1, '[' :: rest =>
    match bracketText? rest with
    | some text =>
      match bracket? text with
      | some regex => do
        let more ← partWithin steps (rest.drop text.length)
        pure (regex :: more)
      | none => .error .backwardRange
    | none => do
      let more ← partWithin steps rest
      pure (char .exact '[' :: more)
  | steps + 1, c :: rest => do
    let more ← partWithin steps rest
    pure (char .exact c :: more)

/-- The expressions of a part. -/
def part (text : List Char) : Except PartFault (List Regex) := partWithin text.length text

/-- The part that crosses directories. -/
def anyDepth : List Char := ['*', '*']

/-- The part that is any name. -/
def anyName : List Char := ['*']

/-- Drops every part that crosses directories right after another one. -/
def collapse : List (List Char) → List (List Char)
  | [] => []
  | [segment] => [segment]
  | first :: second :: rest =>
    if first == anyDepth && second == anyDepth then collapse (second :: rest)
    else first :: collapse (second :: rest)

/-- The parts in a uniform shape: a leading slash is gone, a single part may be at any depth, and a
trailing slash asks for something below. -/
def normalize (parts : List (List Char)) : List (List Char) :=
  let rooted := match parts with
    | [] :: rest => rest
    | [single] => if single == anyDepth then [single] else [anyDepth, single]
    | [single, []] => if single == anyDepth then [single, []] else [anyDepth, single, []]
    | _ => parts
  let closed := match rooted.getLast? with
    | some [] => rooted.dropLast ++ [anyDepth]
    | _ => rooted
  collapse closed

/-- Directories in front, or none. -/
def leadingDirectories : List Regex :=
  [.at .textStart, perhaps (concat [many1 anyChar, char .exact '/'])]

/-- Directories in the middle, or none. -/
def innerDirectories : Regex := perhaps (concat [char .exact '/', many1 anyChar])

/-- The expressions of the parts from one place on. -/
def partsFrom (isFirst needsSlash : Bool) : List (List Char) → Except PartFault (List Regex)
  | [] => .ok []
  | segment :: rest =>
    if segment == anyDepth then
      if isFirst then do
        let more ← partsFrom false false rest
        pure (leadingDirectories ++ more)
      else if rest.isEmpty then .ok [char .exact '/']
      else do
        let more ← partsFrom false true rest
        pure (innerDirectories :: more)
    else do
      let start := (if isFirst then [.at .textStart] else []) ++
        (if needsSlash then [char .exact '/'] else [])
      let body ← if segment == anyName then .ok [many1 noSlash] else part segment
      let finish :=
        if !rest.isEmpty then []
        else if segment == anyName then [perhaps (char .exact '/'), .at .lastLineEnd]
        else [choice [char .exact '/', .at .lastLineEnd]]
      let more ← partsFrom false true rest
      pure (start ++ body ++ finish ++ more)

/-- The expression of a pattern that is cut into parts; `isDirectory` tells that it ended in a
slash. -/
def expression (isDirectory : Bool) (parts : List (List Char)) : Except PartFault Regex :=
  if parts == [anyDepth] then .ok (if isDirectory then char .exact '/' else anyChar)
  else if parts == [anyDepth, anyName] then .ok anyChar
  else if parts == [anyDepth, anyName, anyDepth] then .ok (char .exact '/')
  else (partsFrom true false parts).map concat

/-- A pattern that can be matched, and whether it leaves files out or takes them back in. -/
structure Glob where
  excludes : Bool
  regex : Regex
deriving DecidableEq, Repr

/-- The pattern without blanks at its end, unless the last one is escaped. -/
def trimmed (pattern : List Char) : List Char :=
  if ['\\', ' '].isSuffixOf pattern then pattern else Text.stripRight pattern

/-- Reads a pattern; empty ones and comments say nothing. -/
def read (pattern : String) : Except GlobError (Option Glob) :=
  let text := trimmed pattern.toList
  if text.isEmpty || text.head? == some '#' then .ok none
  else
    let (excludes, body) := match text with
      | '!' :: rest => (false, rest)
      | _ => (true, text)
    let parts := Text.splitOn '/' body
    let isDirectory := parts.getLast? == some [] && body != ['/']
    match normalize parts with
    | [] => .error (.invalid pattern)
    | uniform =>
      match expression isDirectory uniform with
      | .ok regex => .ok (some ⟨excludes, regex⟩)
      | .error .danglingEscape => .error (.invalid pattern)
      | .error .backwardRange => .error (.backwardRange pattern)

/-- Reads several patterns. -/
def readAll (patterns : List String) : Except GlobError (List Glob) := do
  let globs ← patterns.mapM read
  pure (globs.filterMap id)

/-- A path as patterns see it: with slashes, and without a root or the current directory in front. -/
def relative (path : String) : List Char :=
  match Text.replaceChar '\\' '/' path.toList with
  | '/' :: rest => rest
  | '.' :: '/' :: rest => rest
  | text => text

/-- The last pattern that matches leaves the file out. -/
def excludes (globs : List Glob) (path : String) : Bool :=
  let text := relative path
  match globs.reverse.find? fun glob => glob.regex.occursIn text with
  | some glob => glob.excludes
  | none => false

/-- The patterns leave the file out. -/
def matchesAny (patterns : List String) (path : String) : Except GlobError Bool :=
  (readAll patterns).map fun globs => excludes globs path

end Hazard.Exclude
