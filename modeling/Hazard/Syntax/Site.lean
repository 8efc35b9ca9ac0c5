import Hazard.Syntax.Tree

/-!
Places in a syntax tree. A site is a node with the nodes above it, nearest first, so one can walk down
and climb up from it without any store of nodes.
-/

namespace Hazard

/-- A node of a tree and the chain of nodes above it, nearest first. -/
structure Site where
  /-- The node with all that is below it. -/
  tree : Tree
  /-- The nodes above it, nearest first. -/
  above : List Tree
deriving Repr

namespace Site

/-- The root of a tree. -/
def root (tree : Tree) : Site := ⟨tree, []⟩

/-- The kind of the node. -/
def kind (site : Site) : String := site.tree.kind

/-- The node's position in pre-order. -/
def id (site : Site) : Nat := site.tree.id

/-- The grammar names the node. -/
def named (site : Site) : Bool := site.tree.named

/-- The text of the node. -/
def span (site : Site) : Span := site.tree.span

/-- A node seen from its parent. -/
def under (parent : Site) (tree : Tree) : Site := ⟨tree, parent.tree :: parent.above⟩

/-- The children. -/
def children (site : Site) : List Site := site.tree.children.map site.under

/-- The children that the grammar names. -/
def namedChildren (site : Site) : List Site := site.tree.namedChildren.map site.under

/-- The first child held under a name. -/
def child? (site : Site) (field : String) : Option Site := (site.tree.child? field).map site.under

/-- Some child has the kind. -/
def hasChild (site : Site) (kind : String) : Bool := site.tree.hasChild kind

/-- The sites of a chain of nodes. -/
def chain : List Tree → List Site
  | [] => []
  | tree :: above => ⟨tree, above⟩ :: chain above

/-- The nodes above, nearest first. -/
def ancestors (site : Site) : List Site := chain site.above

/-- The node above. -/
def parent? (site : Site) : Option Site := site.ancestors.head?

/-- The nearest node above of one of the kinds. -/
def firstAncestor (kinds : List String) (site : Site) : Option Site :=
  site.ancestors.find? (kinds.contains ·.kind)

/-- The node is the other one or lies below it. -/
def isWithin (site other : Site) : Bool := (site :: site.ancestors).any (·.id == other.id)

mutual

/-- The nodes of a tree in pre-order, under the given chain. -/
def walkTree (above : List Tree) : Tree → List Site
  | .node label children =>
    ⟨.node label children, above⟩ :: walkForest (.node label children :: above) children

/-- The nodes of several trees under one chain. -/
def walkForest (above : List Tree) : List Tree → List Site
  | [] => []
  | tree :: trees => walkTree above tree ++ walkForest above trees

end

/-- The node and all below it, in pre-order. -/
def walk (site : Site) : List Site := walkTree site.above site.tree

/-- The nodes below, in pre-order. -/
def below (site : Site) : List Site := walkForest (site.tree :: site.above) site.tree.children

/-- The nodes below of one of the kinds, in pre-order. -/
def descendants (kinds : List String) (site : Site) : List Site :=
  site.below.filter (kinds.contains ·.kind)

mutual

/-- The nodes of a tree in pre-order, without entering the children that `barred` names. -/
def walkTreeUnless (barred : Tree → Bool) (above : List Tree) : Tree → List Site
  | .node label children =>
    ⟨.node label children, above⟩ ::
      walkForestUnless barred (.node label children :: above) children

/-- The nodes of several trees that are not barred. -/
def walkForestUnless (barred : Tree → Bool) (above : List Tree) : List Tree → List Site
  | [] => []
  | tree :: trees =>
    (if barred tree then [] else walkTreeUnless barred above tree) ++
      walkForestUnless barred above trees

end

/-- The node and all below it that are reached without entering a barred node. -/
def walkUnless (barred : Tree → Bool) (site : Site) : List Site :=
  walkTreeUnless barred site.above site.tree

end Site

end Hazard
