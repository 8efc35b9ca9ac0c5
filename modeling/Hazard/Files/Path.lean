import Hazard.Text.Slice

/-!
Paths with forward slashes. A path is its root and its parts; empty parts and single dots vanish, so
two spellings of one path are equal, while double dots are kept.
-/

namespace Hazard

/-- A path: its root, which is empty for a relative path, and its parts. -/
structure Path where
  root : String
  parts : List String
deriving DecidableEq, Repr

namespace Path

/-- The current directory. -/
def here : Path := ⟨"", []⟩

/-- Reads a path; exactly two slashes in front are a root of their own. -/
def ofString (text : String) : Path :=
  let characters := text.toList
  let slashes := (characters.takeWhile (· == '/')).length
  let root := if slashes == 0 then "" else if slashes == 2 then "//" else "/"
  let parts := (Text.splitOn '/' (characters.drop slashes)).filter fun part =>
    !part.isEmpty && part != ['.']
  ⟨root, parts.map String.ofList⟩

/-- Writes a path; the current directory is a dot. -/
def toString (path : Path) : String :=
  if path.root.isEmpty && path.parts.isEmpty then "." else path.root ++ "/".intercalate path.parts

/-- The path starts at a root. -/
def isAbsolute (path : Path) : Bool := !path.root.isEmpty

/-- The last part. -/
def name (path : Path) : String := path.parts.getLast?.getD ""

/-- The path without its last part; a root and the current directory are their own parents. -/
def parent (path : Path) : Path := { path with parts := path.parts.dropLast }

/-- The second path seen from the first; a path with a root stands for itself. -/
def join (base further : Path) : Path :=
  if further.isAbsolute then further else { base with parts := base.parts ++ further.parts }

/-- The end of a name from its last dot on, unless the dot is its first or last character. -/
def suffixOf (name : String) : String :=
  let characters := name.toList
  let tail := (characters.reverse.takeWhile (· != '.')).reverse
  let dot := characters.length - tail.length
  if tail.length < characters.length && 1 < dot && !tail.isEmpty then String.ofList ('.' :: tail)
  else ""

/-- The suffix of the last part. -/
def suffix (path : Path) : String := suffixOf path.name

end Path

end Hazard
