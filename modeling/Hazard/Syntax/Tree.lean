/-!
Syntax trees. A tree is read from the list of its nodes in pre-order, each with the position of its
parent; every node keeps its position in that list, which tells it from all other nodes.
-/

namespace Hazard

/-- A stretch of source text, in bytes. -/
structure Span where
  start : Nat
  stop : Nat
deriving DecidableEq, Repr

/-- What is known of a node itself: its position in pre-order, its kind, the name under which its
parent holds it (empty if there is none), whether the grammar names it, and its stretch of text. -/
structure Label where
  id : Nat
  kind : String
  field : String
  named : Bool
  span : Span
deriving DecidableEq, Repr

/-- Syntax trees. -/
inductive Tree where
  | node (label : Label) (children : List Tree)
deriving Repr

namespace Tree

/-- The label of the root. -/
def label : Tree → Label
  | .node label _ => label

/-- The subtrees under the root. -/
def children : Tree → List Tree
  | .node _ children => children

/-- The kind of the root. -/
def kind (tree : Tree) : String := tree.label.kind

/-- The root's position in pre-order. -/
def id (tree : Tree) : Nat := tree.label.id

/-- The grammar names the root. -/
def named (tree : Tree) : Bool := tree.label.named

/-- The text of the root. -/
def span (tree : Tree) : Span := tree.label.span

/-- The children that the grammar names. -/
def namedChildren (tree : Tree) : List Tree := tree.children.filter (·.named)

/-- The first child held under a name. -/
def child? (tree : Tree) (field : String) : Option Tree :=
  tree.children.find? (·.label.field == field)

/-- Some child has the kind. -/
def hasChild (tree : Tree) (kind : String) : Bool := tree.children.any (·.kind == kind)

/-- An entry of a pre-order list: the position of the parent, none for the root, and the node. -/
structure Entry where
  parent : Option Nat
  label : Label
deriving DecidableEq, Repr

/-- The trees under the node at position `parent`, and the entries that are left. -/
def forest (parent : Nat) (entries : List Entry) :
    List Tree × { left : List Entry // left.length ≤ entries.length } :=
  match entries with
  | [] => ([], ⟨[], Nat.le_refl _⟩)
  | entry :: rest =>
    if entry.parent = some parent then
      let (below, ⟨afterBelow, shorter⟩) := forest entry.label.id rest
      let (beside, ⟨left, shorter'⟩) := forest parent afterBelow
      (.node entry.label below :: beside,
        ⟨left, by simp only [List.length_cons]; omega⟩)
    else ([], ⟨entry :: rest, Nat.le_refl _⟩)
termination_by entries.length
decreasing_by all_goals simp only [List.length_cons]; omega

/-- The tree of a pre-order list; there is none if an entry belongs to no tree that the list began. -/
def ofPreorder? : List Entry → Option Tree
  | [] => none
  | entry :: rest =>
    let (below, left) := forest entry.label.id rest
    if entry.parent.isNone && left.val.isEmpty then some (.node entry.label below) else none

end Tree

end Hazard
