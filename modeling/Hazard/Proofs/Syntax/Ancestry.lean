import Hazard.Syntax.Codec
import Hazard.Syntax.Function
import Mathlib.Data.List.Flatten
import Mathlib.Data.List.Nodup
import Mathlib.Logic.Relation

/-!
# Walking down and climbing up

A site reaches the sites below it.  A walk lists what its start reaches, a walk that bars some nodes
what is reached without entering one, and the nodes above a site are those that reach it.  The nearest
function above a node is therefore told by the walk that does not enter functions.
-/

namespace Hazard

/-- A tree has what every node has whose children have it. -/
@[elab_as_elim]
theorem Tree.induction {motive : Tree → Prop}
    (node : ∀ label children, (∀ child ∈ children, motive child) → motive (.node label children)) :
    ∀ tree, motive tree
  | .node label children => node label children fun child _ => induction node child

namespace Site

/-- The second node is a child of the first. -/
def IsParent (parent child : Site) : Prop := child ∈ parent.children

/-- The second node is the first or lies below it. -/
def Reaches : Site → Site → Prop := Relation.ReflTransGen IsParent

/-- One goes from a node to a child that is not barred. -/
def Enters (barred : Tree → Bool) (parent child : Site) : Prop :=
  IsParent parent child ∧ barred child.tree = false

theorem isParent_iff {parent child : Site} :
    IsParent parent child ↔ ∃ tree ∈ parent.tree.children, parent.under tree = child :=
  List.mem_map

theorem isParent_under {parent : Site} {tree : Tree} (member : tree ∈ parent.tree.children) :
    IsParent parent (parent.under tree) :=
  isParent_iff.mpr ⟨tree, member, rfl⟩

theorem under_inj {parent other : Site} {tree tree' : Tree} :
    parent.under tree = other.under tree' ↔ parent = other ∧ tree = tree' := by
  obtain ⟨top, above⟩ := parent
  obtain ⟨top', above'⟩ := other
  simp only [under, mk.injEq, List.cons.injEq]
  exact and_comm

theorem isParent_of_child? {site child : Site} {field : String}
    (held : site.child? field = some child) : IsParent site child := by
  obtain ⟨tree, found, rfl⟩ := Option.map_eq_some_iff.mp held
  exact isParent_under (List.mem_of_find?_eq_some found)

theorem isParent_of_mem_namedChildren {site child : Site} (member : child ∈ site.namedChildren) :
    IsParent site child := by
  obtain ⟨tree, named, rfl⟩ := List.mem_map.mp member
  exact isParent_under (List.mem_of_mem_filter named)

/-- A node has one parent. -/
theorem IsParent.unique {first second child : Site} (parent : IsParent first child)
    (parent' : IsParent second child) : first = second := by
  obtain ⟨tree, -, rfl⟩ := isParent_iff.mp parent
  obtain ⟨tree', -, same⟩ := isParent_iff.mp parent'
  exact (under_inj.mp same).1.symm

/-! ## Walks -/

theorem walkForestUnless_eq (barred : Tree → Bool) (above trees : List Tree) :
    walkForestUnless barred above trees =
      (trees.filter (!barred ·)).flatMap (walkTreeUnless barred above) := by
  induction trees with
  | nil => rfl
  | cons tree trees ih =>
      rw [walkForestUnless, ih, List.filter_cons]
      cases barred tree <;> simp

theorem walkUnless_eq (barred : Tree → Bool) (site : Site) :
    site.walkUnless barred =
      site :: (site.tree.children.filter (!barred ·)).flatMap
        fun tree => (site.under tree).walkUnless barred := by
  obtain ⟨⟨label, children⟩, above⟩ := site
  rw [walkUnless, walkTreeUnless, walkForestUnless_eq]
  rfl

theorem reaches_of_mem_walkUnless {barred : Tree → Bool} {top site : Site}
    (member : site ∈ top.walkUnless barred) : Relation.ReflTransGen (Enters barred) top site := by
  obtain ⟨tree, above⟩ := top
  induction tree using Tree.induction generalizing above with
  | node label children ih =>
      rw [walkUnless_eq, List.mem_cons, List.mem_flatMap] at member
      rcases member with rfl | ⟨tree, entered, member⟩
      · exact .refl
      · obtain ⟨child, free⟩ := List.mem_filter.mp entered
        exact .head ⟨isParent_under child, (Bool.not_eq_true' _).mp free⟩ (ih tree child _ member)

theorem mem_walkUnless_iff {barred : Tree → Bool} {top site : Site} :
    site ∈ top.walkUnless barred ↔ Relation.ReflTransGen (Enters barred) top site := by
  refine ⟨reaches_of_mem_walkUnless, fun path => ?_⟩
  induction path using Relation.ReflTransGen.head_induction_on with
  | refl =>
      rw [walkUnless_eq]
      exact List.mem_cons_self
  | head step _ ih =>
      obtain ⟨parent, free⟩ := step
      obtain ⟨tree, child, rfl⟩ := isParent_iff.mp parent
      rw [walkUnless_eq, List.mem_cons, List.mem_flatMap]
      refine .inr ⟨tree, List.mem_filter.mpr ⟨child, ?_⟩, ih⟩
      rw [show barred tree = false from free]
      rfl

mutual

/-- Where nothing is barred, everything is walked. -/
theorem walkTreeUnless_false (above : List Tree) :
    ∀ tree, walkTreeUnless (fun _ => false) above tree = walkTree above tree
  | .node label children => by
      rw [walkTreeUnless, walkTree, walkForestUnless_false]

theorem walkForestUnless_false (above : List Tree) :
    ∀ trees, walkForestUnless (fun _ => false) above trees = walkForest above trees
  | [] => by rw [walkForestUnless, walkForest]
  | tree :: trees => by
      rw [walkForestUnless, walkForest, walkTreeUnless_false above tree,
        walkForestUnless_false above trees]
      rfl

end

theorem walk_eq (site : Site) : site.walk = site :: site.children.flatMap walk := by
  have all := walkUnless_eq (fun _ => false) site
  simp only [walkUnless, walkTreeUnless_false, Bool.not_false, List.filter_true] at all
  rw [walk, all, children, List.flatMap_map]
  rfl

theorem mem_walk_iff {top site : Site} : site ∈ top.walk ↔ top.Reaches site := by
  have free : Enters (fun _ => false) = IsParent := by
    funext parent child
    exact propext (and_iff_left rfl)
  rw [walk, ← walkTreeUnless_false, Reaches, ← free]
  exact mem_walkUnless_iff

theorem walk_eq_cons_below (site : Site) : site.walk = site :: site.below := by
  obtain ⟨⟨label, children⟩, above⟩ := site
  rw [walk, walkTree]
  rfl

theorem below_eq (site : Site) : site.below = site.children.flatMap walk :=
  List.tail_eq_of_cons_eq ((walk_eq_cons_below site).symm.trans (walk_eq site))

/-- The nodes below a node are those that one or more steps down lead to. -/
theorem mem_below_iff {top site : Site} :
    site ∈ top.below ↔ Relation.TransGen IsParent top site := by
  rw [below_eq, List.mem_flatMap, Relation.TransGen.head'_iff]
  simp only [mem_walk_iff]
  rfl

mutual

theorem walkTreeUnless_sublist (barred : Tree → Bool) (above : List Tree) :
    ∀ tree, (walkTreeUnless barred above tree).Sublist (walkTree above tree)
  | .node label children => by
      rw [walkTreeUnless, walkTree]
      exact (walkForestUnless_sublist barred _ children).cons_cons _

theorem walkForestUnless_sublist (barred : Tree → Bool) (above : List Tree) :
    ∀ trees, (walkForestUnless barred above trees).Sublist (walkForest above trees)
  | [] => by
      rw [walkForestUnless, walkForest]
  | tree :: trees => by
      rw [walkForestUnless, walkForest]
      refine .append ?_ (walkForestUnless_sublist barred above trees)
      split
      · exact List.nil_sublist _
      · exact walkTreeUnless_sublist barred above tree

end

/-- The walk of a node below is a stretch of the walk. -/
theorem walk_infix_of_reaches {top site : Site} (reaches : top.Reaches site) :
    site.walk <:+: top.walk := by
  induction reaches using Relation.ReflTransGen.head_induction_on with
  | refl => exact List.infix_refl _
  | @head top' child parent _ ih =>
      obtain ⟨before, after, split⟩ := List.append_of_mem parent
      refine ih.trans ⟨top' :: before.flatMap walk, after.flatMap walk, ?_⟩
      rw [walk_eq top', split, List.flatMap_append, List.flatMap_cons, List.cons_append,
        List.cons_append, List.append_assoc]

/-! ## Climbing -/

theorem ancestors_under (parent : Site) (tree : Tree) :
    (parent.under tree).ancestors = parent :: parent.ancestors := rfl

theorem parent?_of_isParent {parent child : Site} (isParent : IsParent parent child) :
    child.parent? = some parent := by
  obtain ⟨tree, -, rfl⟩ := isParent_iff.mp isParent
  rfl

/-- The node above a node of a tree is its parent. -/
theorem parent?_eq_some_iff {tree : Tree} {parent site : Site} (listed : (root tree).Reaches site) :
    site.parent? = some parent ↔ IsParent parent site := by
  refine ⟨fun found => ?_, parent?_of_isParent⟩
  cases listed with
  | refl => contradiction
  | tail _ isParent =>
      rw [parent?_of_isParent isParent] at found
      exact Option.some.inj found ▸ isParent

theorem depth_of_mem_chain {site : Site} {nodes : List Tree} (member : site ∈ chain nodes) :
    site.above.length < nodes.length := by
  induction nodes with
  | nil => exact absurd member List.not_mem_nil
  | cons tree nodes ih =>
      rcases List.mem_cons.mp member with rfl | member
      · exact Nat.lt_succ_self _
      · exact Nat.lt_succ_of_lt (ih member)

theorem depth_of_isParent {parent child : Site} (isParent : IsParent parent child) :
    child.above.length = parent.above.length + 1 := by
  obtain ⟨tree, -, rfl⟩ := isParent_iff.mp isParent
  rfl

/-- What is reached lies deeper, unless one has not left. -/
theorem Reaches.eq_or_deeper {top site : Site} (reaches : top.Reaches site) :
    top = site ∨ top.above.length < site.above.length := by
  induction reaches with
  | refl => exact .inl rfl
  | tail _ parent ih =>
      refine .inr ?_
      rw [depth_of_isParent parent]
      rcases ih with rfl | deeper
      · exact Nat.lt_succ_self _
      · exact Nat.lt_succ_of_lt deeper

theorem Reaches.depth_le {top site : Site} (reaches : top.Reaches site) :
    top.above.length ≤ site.above.length := by
  rcases reaches.eq_or_deeper with rfl | deeper
  · exact Nat.le_refl _
  · exact Nat.le_of_lt deeper

theorem Reaches.antisymm {first second : Site} (down : first.Reaches second)
    (up : second.Reaches first) : first = second := by
  rcases down.eq_or_deeper with same | deeper
  · exact same
  · rcases up.eq_or_deeper with same | deeper'
    · exact same.symm
    · omega

/-- One reaches a child by reaching its parent. -/
theorem reaches_iff_of_isParent {top parent child : Site} (isParent : IsParent parent child) :
    top.Reaches child ↔ top = child ∨ top.Reaches parent := by
  constructor
  · intro reaches
    cases reaches with
    | refl => exact .inl rfl
    | tail before last => exact .inr (last.unique isParent ▸ before)
  · rintro (rfl | reaches)
    · exact .refl
    · exact .tail reaches isParent

/-- Of two nodes that reach a third, one reaches the other. -/
theorem Reaches.total {first second site : Site} (down : first.Reaches site)
    (down' : second.Reaches site) : first.Reaches second ∨ second.Reaches first := by
  induction down with
  | refl => exact .inr down'
  | @tail parent child before last ih =>
      rcases (reaches_iff_of_isParent last).mp down' with rfl | reaches
      · exact .inl (.tail before last)
      · exact ih reaches

/-- Of the nodes that reach a third, no two are equally deep. -/
theorem Reaches.eq_of_depth {first second site : Site} (down : first.Reaches site)
    (down' : second.Reaches site) (level : first.above.length = second.above.length) :
    first = second := by
  rcases down.total down' with below | below
  · rcases below.eq_or_deeper with same | deeper
    · exact same
    · omega
  · rcases below.eq_or_deeper with same | deeper
    · exact same.symm
    · omega

/-- What reaches a node of a tree is itself a node of the tree. -/
theorem Reaches.root_reaches {tree : Tree} {upper site : Site}
    (listed : (root tree).Reaches site) (reaches : upper.Reaches site) :
    (root tree).Reaches upper := by
  rcases listed.total reaches with below | above
  · exact below
  · rcases above.eq_or_deeper with rfl | deeper
    · exact .refl
    · exact absurd deeper (Nat.not_lt_zero _)

/-- The nodes above a node of a tree are those that reach it. -/
theorem mem_ancestors_iff {tree : Tree} {upper site : Site} (listed : (root tree).Reaches site) :
    upper ∈ site :: site.ancestors ↔ upper.Reaches site := by
  induction listed with
  | refl =>
      constructor
      · intro member
        rw [List.mem_singleton.mp member]
        exact .refl
      · intro reaches
        rcases reaches.eq_or_deeper with rfl | deeper
        · exact List.mem_cons_self
        · exact absurd deeper (Nat.not_lt_zero _)
  | tail _ parent ih =>
      rw [reaches_iff_of_isParent parent, ← ih, List.mem_cons]
      obtain ⟨tree, -, rfl⟩ := isParent_iff.mp parent
      rw [ancestors_under]

/-- What lies on the way to a node that is reached without entering a barred one is so reached. -/
theorem enters_of_between {barred : Tree → Bool} {top middle site : Site}
    (path : Relation.ReflTransGen (Enters barred) top site) (down : top.Reaches middle)
    (up : middle.Reaches site) : Relation.ReflTransGen (Enters barred) top middle := by
  induction path with
  | refl =>
      rw [down.antisymm up]
  | @tail parent child before step ih =>
      rcases (reaches_iff_of_isParent step.1).mp up with rfl | up
      · exact .tail before step
      · exact ih up

/-! ## Functions -/

/-- The function that the children of a node belong to. -/
def owner? (site : Site) : Option Site :=
  if site.isFunction then some site else site.enclosingFunction

theorem owner?_of_function {site : Site} (isFunction : site.isFunction = true) :
    site.owner? = some site :=
  if_pos isFunction

theorem owner?_of_plain {site : Site} (plain : site.isFunction = false) :
    site.owner? = site.enclosingFunction := by
  rw [owner?, plain]
  rfl

theorem enclosingFunction_of_isParent {parent child : Site} (isParent : IsParent parent child) :
    child.enclosingFunction = parent.owner? := by
  obtain ⟨tree, -, rfl⟩ := isParent_iff.mp isParent
  rw [enclosingFunction, ancestors_under, List.find?_cons, owner?, enclosingFunction]
  cases parent.isFunction <;> rfl

theorem depth_of_owner? {site function : Site} (owned : site.owner? = some function) :
    function.above.length ≤ site.above.length := by
  rw [owner?] at owned
  split at owned
  · obtain rfl := Option.some.inj owned
    exact Nat.le_refl _
  · exact Nat.le_of_lt (depth_of_mem_chain (List.mem_of_find?_eq_some owned))

/-- Without entering a function one does not leave the function where one starts. -/
theorem owner?_of_enters {top site : Site}
    (path : Relation.ReflTransGen (Enters (·.isFunction)) top site) :
    site.owner? = top.owner? := by
  induction path with
  | refl => rfl
  | tail _ step ih =>
      obtain ⟨isParent, plain⟩ := step
      rw [owner?_of_plain plain, enclosingFunction_of_isParent isParent, ih]

/-- What belongs to the function where one starts is reached without entering another. -/
theorem enters_of_owner? {top site : Site} (reaches : top.Reaches site)
    (same : site.owner? = top.owner?) :
    Relation.ReflTransGen (Enters (·.isFunction)) top site := by
  induction reaches with
  | refl => exact .refl
  | @tail parent child before isParent ih =>
      cases plain : child.isFunction with
      | true =>
          -- A function below the start would be its own owner, and lies too deep to be the start's.
          have owned := depth_of_owner? (same.symm.trans (owner?_of_function plain))
          have deeper := Reaches.depth_le before
          rw [depth_of_isParent isParent] at owned
          omega
      | false =>
          rw [owner?_of_plain plain, enclosingFunction_of_isParent isParent] at same
          exact .tail (ih same) ⟨isParent, plain⟩

/-- Inside a function everything belongs to it or to a function inside it. -/
theorem exists_owner? {top site : Site} (isFunction : top.isFunction = true)
    (reaches : top.Reaches site) :
    ∃ owner, site.owner? = some owner ∧ top.Reaches owner := by
  induction reaches with
  | refl => exact ⟨top, owner?_of_function isFunction, .refl⟩
  | @tail parent child before isParent ih =>
      cases plain : child.isFunction with
      | true => exact ⟨child, owner?_of_function plain, .tail before isParent⟩
      | false => rwa [owner?_of_plain plain, enclosingFunction_of_isParent isParent]

/-- A walk that enters no functions lists what belongs to the function where it starts. -/
theorem mem_walkUnless_isFunction_iff {top site : Site} :
    site ∈ top.walkUnless (·.isFunction) ↔ top.Reaches site ∧ site.owner? = top.owner? := by
  rw [mem_walkUnless_iff]
  constructor
  · intro path
    exact ⟨Relation.ReflTransGen.mono (fun _ _ step => step.1) _ _ path, owner?_of_enters path⟩
  · rintro ⟨reaches, same⟩
    exact enters_of_owner? reaches same

end Site

/-! ## Positions -/

/-- A node as an entry of a list. -/
def Site.entry (site : Site) : Tree.Entry := ⟨site.parent?.map Site.id, site.tree.label⟩

/-- Each node has a position of its own, as in every tree that is read. -/
def Tree.Distinct (tree : Tree) : Prop := ((Site.root tree).walk.map Site.id).Nodup

instance (tree : Tree) : Decidable tree.Distinct :=
  inferInstanceAs (Decidable ((Site.root tree).walk.map Site.id).Nodup)

namespace Tree

/-- The trees of a list of entries hold the entries that are used up, in order. -/
theorem entries_forest {parent : Nat} (entries : List Entry) {top : Tree} (above : List Tree)
    (here : top.id = parent) :
    (Site.walkForest (top :: above) (forest parent entries).1).map Site.entry ++
        (forest parent entries).2.val = entries := by
  fun_induction forest parent entries generalizing top above with
  | case1 => rfl
  | case2 parent entry rest child below afterBelow shorter below_eq beside left shorter' beside_eq
      ihBelow ihBeside =>
      have self : (Tree.node entry.label below).id = entry.label.id := rfl
      have ihBelow := ihBelow (top :: above) self
      have ihBeside := ihBeside above here
      rw [below_eq] at ihBelow
      rw [beside_eq] at ihBeside
      have first : Site.entry ⟨.node entry.label below, top :: above⟩ = entry := by
        obtain ⟨_, label⟩ := entry
        obtain rfl : _ = some parent := child
        exact congrArg (fun id => Entry.mk (some id) label) here
      simp only [Site.walkForest, Site.walkTree, List.map_append, List.map_cons, List.cons_append,
        List.append_assoc, ihBeside, ihBelow, first]
  | case3 => rfl

/-- Walking the tree of a list of entries gives the list back. -/
theorem entries_of_ofPreorder? {entries : List Entry} {tree : Tree}
    (read : ofPreorder? entries = some tree) :
    (Site.root tree).walk.map Site.entry = entries := by
  cases entries with
  | nil => contradiction
  | cons entry rest =>
      rw [ofPreorder?] at read
      split at read
      rename_i below left forest_eq
      have here : (Tree.node entry.label below).id = entry.label.id := rfl
      have held := entries_forest rest [] here
      rw [forest_eq] at held
      obtain ⟨ends, tree_eq⟩ := Option.ite_none_right_eq_some.mp read
      obtain rfl := Option.some.inj tree_eq
      obtain ⟨first, used⟩ := Bool.and_eq_true_iff.mp ends
      rw [List.isEmpty_iff.mp used, List.append_nil] at held
      rw [Site.walk, Site.root, Site.walkTree, List.map_cons, held]
      obtain ⟨_, label⟩ := entry
      obtain rfl := Option.isNone_iff_eq_none.mp first
      rfl

end Tree

namespace Site

variable {tree : Tree} {site other : Site}

theorem eq_of_id_eq (distinct : tree.Distinct) (listed : site ∈ (root tree).walk)
    (listed' : other ∈ (root tree).walk) (same : site.id = other.id) : site = other :=
  List.inj_on_of_nodup_map distinct listed listed' same

theorem isWithin_iff (distinct : tree.Distinct) (listed : site ∈ (root tree).walk)
    (listed' : other ∈ (root tree).walk) : site.isWithin other = true ↔ other.Reaches site := by
  have reached := mem_walk_iff.mp listed
  rw [← mem_ancestors_iff reached, isWithin, List.any_eq_true]
  constructor
  · rintro ⟨upper, member, same⟩
    have above := reached.root_reaches ((mem_ancestors_iff reached).mp member)
    rwa [← eq_of_id_eq distinct (mem_walk_iff.mpr above) listed' (beq_iff_eq.mp same)]
  · intro member
    exact ⟨other, member, beq_self_eq_true _⟩

end Site

namespace Source

variable {source : Source}

theorem mem_walk_iff {site : Site} : site ∈ source.walk ↔ source.root.Reaches site :=
  Site.mem_walk_iff

theorem mem_walk_of_reaches {top site : Site} (listed : top ∈ source.walk)
    (reaches : top.Reaches site) : site ∈ source.walk :=
  mem_walk_iff.mpr ((mem_walk_iff.mp listed).trans reaches)

theorem mem_walk_of_isParent {parent child : Site} (listed : parent ∈ source.walk)
    (isParent : Site.IsParent parent child) : child ∈ source.walk :=
  mem_walk_of_reaches listed (.single isParent)

theorem nodup_walk (distinct : source.tree.Distinct) : source.walk.Nodup := distinct.of_map _

theorem nodup_walk_of_mem (distinct : source.tree.Distinct) {site : Site}
    (listed : site ∈ source.walk) : site.walk.Nodup :=
  (nodup_walk distinct).sublist ((Site.walk_infix_of_reaches (mem_walk_iff.mp listed)).sublist)

theorem nodup_children (distinct : source.tree.Distinct) {site : Site}
    (listed : site ∈ source.walk) : site.children.Nodup := by
  have walked := nodup_walk_of_mem distinct listed
  rw [Site.walk_eq] at walked
  have each : (site.children.flatMap fun child => [child]).Sublist
      (site.children.flatMap Site.walk) := by
    refine .flatMap_right _ fun child _ => ?_
    rw [Site.walk_eq]
    exact (List.nil_sublist _).cons_cons _
  rw [List.flatMap_singleton'] at each
  exact (List.nodup_cons.mp walked).2.sublist each

theorem eq_of_id_eq (distinct : source.tree.Distinct) {first second : Site}
    (listed : first ∈ source.walk) (listed' : second ∈ source.walk) (same : first.id = second.id) :
    first = second :=
  Site.eq_of_id_eq distinct listed listed' same

theorem parent?_eq_some_iff {parent site : Site} (listed : site ∈ source.walk) :
    site.parent? = some parent ↔ Site.IsParent parent site :=
  Site.parent?_eq_some_iff (mem_walk_iff.mp listed)

theorem mem_walk_of_isParent_mem {parent child : Site} (listed : child ∈ source.walk)
    (isParent : Site.IsParent parent child) : parent ∈ source.walk :=
  mem_walk_iff.mpr ((mem_walk_iff.mp listed).root_reaches (.single isParent))

theorem isWithin_iff (distinct : source.tree.Distinct) {site other : Site}
    (listed : site ∈ source.walk) (listed' : other ∈ source.walk) :
    site.isWithin other = true ↔ other.Reaches site :=
  Site.isWithin_iff distinct listed listed'

end Source

end Hazard
