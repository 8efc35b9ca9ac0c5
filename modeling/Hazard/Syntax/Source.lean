import Hazard.Syntax.Language
import Hazard.Syntax.Site
import Hazard.Text.Lines
import Hazard.Text.Slice

/-!
Source files with their syntax trees, and the texts, lines and columns of their nodes.
-/

namespace Hazard

/-- A file as it comes: its path, its text, and the tree of that text if its grammar is known. -/
structure Document where
  /-- The path, as it was given. -/
  path : String
  /-- The characters of the file. -/
  text : List Char
  /-- The syntax tree of the text; none if no grammar is known for the path. -/
  tree : Option Tree
deriving Repr

/-- A file that can be examined. -/
structure Source where
  /-- The path, as it was given. -/
  path : String
  /-- The grammar that its name calls for. -/
  grammar : Grammar
  /-- The characters of the file. -/
  text : List Char
  /-- The syntax tree of the text. -/
  tree : Tree
deriving Repr

namespace Source

/-- The tree of an empty text. -/
def emptyTree : Tree := .node ⟨0, "program", "", true, ⟨0, 0⟩⟩ []

/-- The document with a grammar for its name, unless there is none. -/
def ofDocument? (document : Document) : Option Source :=
  (Grammar.ofPath? document.path).map fun grammar =>
    { path := document.path, grammar := grammar, text := document.text,
      tree := document.tree.getD emptyTree }

/-- The root of the tree. -/
def root (source : Source) : Site := .root source.tree

/-- All nodes, in pre-order. -/
def walk (source : Source) : List Site := source.root.walk

/-- All nodes of the given kinds, in pre-order. -/
def ofKinds (source : Source) (kinds : List String) : List Site :=
  source.walk.filter (kinds.contains ·.kind)

/-- The lines of the text. -/
def lines (source : Source) : List (List Char) := Text.lines source.text

/-- The text of a stretch. -/
def slice (source : Source) (span : Span) : List Char :=
  Text.sliceBytes span.start span.stop source.text

/-- The text of a node. -/
def textOf (source : Source) (site : Site) : List Char := source.slice site.span

/-- The text of a node that may be missing. -/
def textOf? (source : Source) (site : Option Site) : List Char :=
  match site with
  | some site => source.textOf site
  | none => []

/-- The line on which a node starts, counted from one. -/
def startLine (source : Source) (site : Site) : Nat :=
  (Text.pointAt source.text site.span.start).row + 1

/-- The line on which a node ends, counted from one. -/
def endLine (source : Source) (site : Site) : Nat :=
  (Text.pointAt source.text site.span.stop).row + 1

/-- The column at which a node starts, counted from one. -/
def startColumn (source : Source) (site : Site) : Nat :=
  Text.column source.lines (Text.pointAt source.text site.span.start)

/-- The column after the end of a node, counted from one. -/
def endColumn (source : Source) (site : Site) : Nat :=
  Text.column source.lines (Text.pointAt source.text site.span.stop)

end Source

end Hazard
