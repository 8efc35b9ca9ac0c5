import Hazard.Proofs.Syntax.Ancestry

/-!
# Trees as lists of their nodes

A tree is given by its nodes in pre-order, each with the position of its parent.  Every such list is
read.  A visit with a stack of nodes lists the tree in that order again, from a node down it lists the
stretch of positions that begins with the node and holds what hangs from it, and the loops that climb
from parent to parent find the nodes that have the start in their stretch, the last one first.
-/

namespace Hazard

namespace Tree

/-- The entry at the first position has its parent at the second one. -/
def HangsFrom (entries : List Entry) (position parent : Nat) : Prop :=
  ∃ entry, entries[position]? = some entry ∧ entry.parent = some parent

/-- The entries are the nodes of a tree in pre-order, numbered by their positions.  The first one has
no parent, and each other one hangs from the entry before it or from one above that. -/
structure IsPreorder (entries : List Entry) : Prop where
  /-- Every entry has its position for a number. -/
  numbered : (entries.map fun entry => entry.label.id) = List.range entries.length
  /-- The first entry has no parent. -/
  root : ∃ label rest, entries = ⟨none, label⟩ :: rest
  /-- Every other entry hangs from the one before it or from one above that. -/
  next {position : Nat} {entry : Entry} (held : entries[position + 1]? = some entry) :
    ∃ parent, entry.parent = some parent ∧
      Relation.ReflTransGen (HangsFrom entries) position parent

end Tree

namespace Site

/-- A visit lists the last node of a stack and replaces it by its children, the first of them last,
until the stack is empty. -/
inductive Visits : List Site → List Site → Prop
  | done : Visits [] []
  | next {stack listed : List Site} {site : Site}
      (rest : Visits (stack ++ site.children.reverse) listed) :
      Visits (stack ++ [site]) (site :: listed)

/-- A climb looks at a node and goes on to its parent, until a node is wanted or the root is passed. -/
inductive Climbs (wanted : Site → Bool) : Option Site → Option Site → Prop
  | passed : Climbs wanted none none
  | found {site : Site} (hit : wanted site = true) : Climbs wanted (some site) (some site)
  | higher {site : Site} {outcome : Option Site} (missed : wanted site = false)
      (rest : Climbs wanted site.parent? outcome) : Climbs wanted (some site) outcome

/-- The node is another one of the tree, is wanted, and has the site in its walk. -/
structure Encloses (tree : Tree) (wanted : Site → Bool) (site upper : Site) : Prop where
  /-- It is a node of the tree. -/
  listed : upper ∈ (root tree).walk
  /-- It is not the site itself. -/
  other : upper.id ≠ site.id
  /-- Its walk meets the site. -/
  walked : site ∈ upper.walk
  /-- It is wanted. -/
  wanted : wanted upper = true

/-- What is found is the last of the wanted nodes that enclose the site, if there is any. -/
structure IsNearest (tree : Tree) (wanted : Site → Bool) (site : Site) (found : Option Site) :
    Prop where
  /-- A node is found exactly if it encloses the site and none that does comes later. -/
  some_iff (upper : Site) : found = some upper ↔
    Encloses tree wanted site upper ∧
      ∀ other, Encloses tree wanted site other → other.id ≤ upper.id
  /-- Nothing is found exactly if no node encloses the site. -/
  none_iff : found = none ↔ ∀ upper, ¬ Encloses tree wanted site upper

/-- The walk of the tree lists the entries, each at its position. -/
structure Reads (entries : List Tree.Entry) (tree : Tree) : Prop where
  /-- The walk of the tree meets the entries in their order. -/
  listed : (root tree).walk.map Site.entry = entries
  /-- Each node has its position for a number. -/
  positions : (root tree).walk.map Site.id = List.range entries.length

/-- Going down the tree, one meets the entries of the list.  Every visit ends. -/
structure WalksDown (entries : List Tree.Entry) (tree : Tree) : Prop extends Reads entries tree where
  /-- A visit of a node ends, and meets the nodes of its walk. -/
  visits (site : Site) (nodes : List Site) : Visits [site] nodes ↔ nodes = site.walk
  /-- The walk of a node is a stretch of the walk of the whole, and starts with the node. -/
  stretch : ∀ site ∈ (root tree).walk,
    site.walk = ((root tree).walk.drop site.id).take site.walk.length ∧ site.walk.head? = some site
  /-- The walk of a node meets what hangs from it, by however many steps. -/
  subtree : ∀ site ∈ (root tree).walk, ∀ position, position ∈ site.walk.map Site.id ↔
    Relation.ReflTransGen (Tree.HangsFrom entries) position site.id
  /-- The descendants are the nodes of the walk but for the first, by their kinds. -/
  descendants : ∀ site ∈ (root tree).walk, ∀ kinds, site.descendants kinds =
    (site.walk.filter fun node => node.id != site.id).filter fun node => kinds.contains node.kind

/-- Going up the tree, one meets the nodes whose walks hold the start.  Every climb ends. -/
structure ClimbsUp (tree : Tree) : Prop where
  /-- A node lies within another exactly if it is in the walk of the other. -/
  within : ∀ site ∈ (root tree).walk, ∀ other ∈ (root tree).walk,
    site.isWithin other = true ↔ site ∈ other.walk
  /-- The climb that looks for the other node ends. -/
  withinClimb (site other : Site) : ∃ outcome,
    Climbs (·.id == other.id) (some site) outcome ∧ site.isWithin other = outcome.isSome
  /-- The first ancestor of some kinds is the nearest node of these kinds around. -/
  ancestor : ∀ site ∈ (root tree).walk, ∀ kinds,
    IsNearest tree (kinds.contains ·.kind) site (site.firstAncestor kinds)
  /-- The climb to the first ancestor ends there. -/
  ancestorClimb (site : Site) (kinds : List String) (outcome : Option Site) :
    Climbs (kinds.contains ·.kind) site.parent? outcome ↔ outcome = site.firstAncestor kinds
  /-- The enclosing function is the nearest function around. -/
  function : ∀ site ∈ (root tree).walk,
    IsNearest tree isFunction site site.enclosingFunction
  /-- The climb to the enclosing function ends there. -/
  functionClimb (site : Site) (outcome : Option Site) :
    Climbs isFunction site.parent? outcome ↔ outcome = site.enclosingFunction

end Site

/-! ## Reading a list -/

namespace Tree

variable {entries : List Entry}

theorem HangsFrom.unique {position parent parent' : Nat} (hangs : HangsFrom entries position parent)
    (hangs' : HangsFrom entries position parent') : parent = parent' := by
  obtain ⟨entry, held, parent_eq⟩ := hangs
  obtain ⟨entry', held', parent_eq'⟩ := hangs'
  obtain rfl := Option.some.inj (held.symm.trans held')
  exact Option.some.inj (parent_eq.symm.trans parent_eq')

/-- What is above a node that hangs from another is that one or above it. -/
theorem HangsFrom.above {position parent upper : Nat} (hangs : HangsFrom entries position parent)
    (above : Relation.TransGen (HangsFrom entries) position upper) :
    Relation.ReflTransGen (HangsFrom entries) parent upper := by
  obtain ⟨next, first, rest⟩ := Relation.TransGen.head'_iff.mp above
  rwa [hangs.unique first]

theorem IsPreorder.id_eq (preorder : IsPreorder entries) {position : Nat} {entry : Entry}
    (held : entries[position]? = some entry) : entry.label.id = position := by
  have same := congrArg (·[position]?) preorder.numbered
  obtain ⟨bound, -⟩ := List.getElem?_eq_some_iff.mp held
  simp only [List.getElem?_map, held, Option.map_some, List.getElem?_range bound] at same
  exact Option.some.inj same

/-- Where the next entry, if any, hangs from a node or from one above it, the trees under the node take
all entries up to one that hangs from a node above. -/
theorem IsPreorder.forest_leaves (preorder : IsPreorder entries) {parent : Nat}
    {front rest : List Entry} (split : entries = front ++ rest)
    (hangs : ∀ entry rear, rest = entry :: rear → ∃ upper, entry.parent = some upper ∧
      Relation.ReflTransGen (HangsFrom entries) parent upper) :
    (∃ used, rest = used ++ (forest parent rest).2.val) ∧
    ∀ entry rear, (forest parent rest).2.val = entry :: rear → ∃ upper,
      entry.parent = some upper ∧ Relation.TransGen (HangsFrom entries) parent upper := by
  fun_induction forest parent rest generalizing front with
  | case1 => exact ⟨⟨[], rfl⟩, fun _ _ empty => absurd empty (List.cons_ne_nil _ _).symm⟩
  | case2 parent entry rest child below afterBelow shorter below_eq beside left shorter' beside_eq
      ihBelow ihBeside =>
      rw [below_eq] at ihBelow
      rw [beside_eq] at ihBeside
      have held : entries[front.length]? = some entry := by simp [split]
      have hangsHere : HangsFrom entries entry.label.id parent :=
        ⟨entry, by rwa [preorder.id_eq held], child⟩
      have split' : entries = (front ++ [entry]) ++ rest := by simp [split]
      obtain ⟨⟨used, used_eq⟩, leaves⟩ := ihBelow split' (by
        rintro next rear rfl
        rw [preorder.id_eq held]
        exact preorder.next (by simp [split]))
      simp only at used_eq leaves
      have split'' : entries = (front ++ entry :: used) ++ afterBelow := by
        rw [split, used_eq, List.append_assoc, List.cons_append]
      obtain ⟨⟨used', used_eq'⟩, leaves'⟩ := ihBeside split'' fun next rear next_eq => by
        obtain ⟨upper, upper_eq, above⟩ := leaves next rear next_eq
        exact ⟨upper, upper_eq, hangsHere.above above⟩
      refine ⟨⟨entry :: (used ++ used'), ?_⟩, leaves'⟩
      simp only at used_eq' ⊢
      rw [List.cons_append, List.append_assoc, ← used_eq', ← used_eq]
  | case3 parent entry rest elsewhere =>
      refine ⟨⟨[], rfl⟩, fun next rear next_eq => ?_⟩
      obtain ⟨rfl, rfl⟩ := List.cons.inj next_eq
      obtain ⟨upper, upper_eq, above⟩ := hangs entry rest rfl
      refine ⟨upper, upper_eq, ?_⟩
      rcases Relation.reflTransGen_iff_eq_or_transGen.mp above with rfl | above
      · exact absurd upper_eq elsewhere
      · exact above

/-- Every list of the nodes of a tree in pre-order is read. -/
theorem IsPreorder.exists_ofPreorder? (preorder : IsPreorder entries) :
    ∃ tree, ofPreorder? entries = some tree := by
  obtain ⟨label, rest, entries_eq⟩ := preorder.root
  have held : entries[0]? = some ⟨none, label⟩ := by simp [entries_eq]
  have id_eq : label.id = 0 := preorder.id_eq held
  have split : entries = [⟨none, label⟩] ++ rest := entries_eq
  have hangs : ∀ entry rear, rest = entry :: rear → ∃ upper, entry.parent = some upper ∧
      Relation.ReflTransGen (HangsFrom entries) label.id upper := by
    rintro entry rear rfl
    rw [id_eq]
    exact preorder.next (by simp [entries_eq])
  obtain ⟨-, leaves⟩ := preorder.forest_leaves split hangs
  have used : (forest label.id rest).2.val = [] := by
    cases left : (forest label.id rest).2.val with
    | nil => rfl
    | cons entry rear =>
        -- The first entry hangs from nothing, so nothing hangs from a node above it.
        obtain ⟨upper, -, above⟩ := leaves entry rear left
        obtain ⟨next, ⟨entry, held', parent_eq⟩, -⟩ := Relation.TransGen.head'_iff.mp above
        rw [id_eq, held] at held'
        obtain rfl := Option.some.inj held'
        contradiction
  refine ⟨.node label (forest label.id rest).1, ?_⟩
  rw [entries_eq, ofPreorder?]
  simp [used]

end Tree

/-! ## Going down -/

namespace Site

theorem Visits.eq {stack listed : List Site} (visits : Visits stack listed) :
    listed = stack.reverse.flatMap walk := by
  induction visits with
  | done => rfl
  | @next stack listed site _ ih =>
      rw [List.reverse_append, List.reverse_reverse, List.flatMap_append] at ih
      rw [List.reverse_append, List.reverse_singleton, List.singleton_append, List.flatMap_cons,
        walk_eq, List.cons_append, ← ih]

/-- A node on top of the stack is visited with all below it, and then the rest of the stack. -/
theorem Visits.push {stack listed : List Site} (visits : Visits stack listed) (site : Site) :
    Visits (stack ++ [site]) (site.walk ++ listed) := by
  obtain ⟨tree, above⟩ := site
  induction tree using Tree.induction generalizing stack listed above with
  | node label children ih =>
      have forest (trees : List Tree) (belong : ∀ tree ∈ trees, tree ∈ children) (top : Site) :
          Visits (stack ++ (trees.map top.under).reverse)
            ((trees.map top.under).flatMap walk ++ listed) := by
        induction trees with
        | nil =>
            rw [List.map_nil, List.reverse_nil, List.append_nil]
            exact visits
        | cons tree trees ihTrees =>
            obtain ⟨member, belong⟩ := List.forall_mem_cons.mp belong
            rw [List.map_cons, List.reverse_cons, ← List.append_assoc, List.flatMap_cons,
              List.append_assoc (top.under tree).walk]
            exact ih tree member (ihTrees belong) (top.tree :: top.above)
      rw [walk_eq, List.cons_append]
      exact .next (forest children (fun _ member => member) ⟨.node label children, above⟩)

theorem visits_iff {site : Site} {nodes : List Site} : Visits [site] nodes ↔ nodes = site.walk := by
  constructor
  · intro visits
    rw [visits.eq, List.reverse_singleton, List.flatMap_singleton]
  · rintro rfl
    have visits := Visits.push .done site
    rwa [List.append_nil, List.nil_append] at visits

section

variable {entries : List Tree.Entry} {tree : Tree} {site : Site}

theorem reads_of_isPreorder (preorder : Tree.IsPreorder entries)
    (read : Tree.ofPreorder? entries = some tree) : Reads entries tree where
  listed := Tree.entries_of_ofPreorder? read
  positions := by
    rw [← preorder.numbered, ← Tree.entries_of_ofPreorder? read, List.map_map]
    rfl

theorem Reads.distinct (reads : Reads entries tree) : tree.Distinct := by
  rw [Tree.Distinct, reads.positions]
  exact List.nodup_range

/-- A node stands in the walk of the tree at its own position. -/
theorem Reads.id_eq (reads : Reads entries tree) {position : Nat}
    (held : (root tree).walk[position]? = some site) : site.id = position := by
  have same := congrArg (·[position]?) reads.positions
  obtain ⟨bound, -⟩ := List.getElem?_eq_some_iff.mp held
  have bound : position < entries.length := by
    rw [← reads.listed, List.length_map]
    exact bound
  simp only [List.getElem?_map, held, Option.map_some, List.getElem?_range bound] at same
  exact Option.some.inj same

theorem Reads.getElem?_id (reads : Reads entries tree) (listed : site ∈ (root tree).walk) :
    (root tree).walk[site.id]? = some site := by
  obtain ⟨position, held⟩ := List.mem_iff_getElem?.mp listed
  rwa [reads.id_eq held]

theorem Reads.getElem?_entries (reads : Reads entries tree) (listed : site ∈ (root tree).walk) :
    entries[site.id]? = some site.entry := by
  rw [← reads.listed, List.getElem?_map, reads.getElem?_id listed, Option.map_some]

theorem Reads.exists_split (reads : Reads entries tree) (listed : site ∈ (root tree).walk) :
    ∃ before after, (root tree).walk = before ++ site.walk ++ after ∧ before.length = site.id := by
  obtain ⟨before, after, split⟩ := walk_infix_of_reaches (mem_walk_iff.mp listed)
  refine ⟨before, after, split.symm, (reads.id_eq ?_).symm⟩
  rw [← split, walk_eq site]
  simp

theorem Reads.walk_eq_stretch (reads : Reads entries tree) (listed : site ∈ (root tree).walk) :
    site.walk = ((root tree).walk.drop site.id).take site.walk.length := by
  obtain ⟨before, after, split, length_eq⟩ := reads.exists_split listed
  rw [← length_eq, split, List.append_assoc, List.drop_left, List.take_left]

/-- Nodes below a node come later in the list. -/
theorem Reads.id_lt (reads : Reads entries tree) {upper : Site} (listed : upper ∈ (root tree).walk)
    (below : site ∈ upper.below) : upper.id < site.id := by
  obtain ⟨before, after, split, length_eq⟩ := reads.exists_split listed
  obtain ⟨front, rear, below_eq⟩ := List.append_of_mem below
  have place : (root tree).walk = (before ++ upper :: front) ++ site :: (rear ++ after) := by
    rw [split, walk_eq_cons_below, below_eq]
    simp only [List.append_assoc, List.cons_append]
  have held : (root tree).walk[(before ++ upper :: front).length]? = some site := by
    rw [place]
    simp
  rw [reads.id_eq held, ← length_eq, List.length_append, List.length_cons]
  omega

/-- In the list a node hangs from its parent. -/
theorem Reads.hangsFrom_iff (reads : Reads entries tree) {child : Site}
    (listed : child ∈ (root tree).walk) {parent : Nat} :
    Tree.HangsFrom entries child.id parent ↔ ∃ site, IsParent site child ∧ site.id = parent := by
  have above (site : Site) : child.parent? = some site ↔ IsParent site child :=
    parent?_eq_some_iff (mem_walk_iff.mp listed)
  rw [Tree.HangsFrom, reads.getElem?_entries listed]
  simp only [Option.some.injEq, exists_eq_left', Site.entry, Option.map_eq_some_iff, above]

theorem Reads.mem_ids_iff (reads : Reads entries tree) (listed : site ∈ (root tree).walk)
    (position : Nat) : position ∈ site.walk.map Site.id ↔
      Relation.ReflTransGen (Tree.HangsFrom entries) position site.id := by
  constructor
  · intro member
    obtain ⟨node, walked, rfl⟩ := List.mem_map.mp member
    have reaches := mem_walk_iff.mp walked
    clear member walked
    induction reaches with
    | refl => exact .refl
    | @tail parent child before isParent ih =>
        have inside := (mem_walk_iff.mp listed).trans (before.tail isParent)
        have hangs := (reads.hangsFrom_iff (mem_walk_iff.mpr inside)).mpr ⟨parent, isParent, rfl⟩
        exact .head hangs ih
  · intro path
    induction path using Relation.ReflTransGen.head_induction_on with
    | refl =>
        rw [walk_eq]
        exact List.mem_cons_self
    | @head position parent hangs _ ih =>
        obtain ⟨upper, walked, rfl⟩ := List.mem_map.mp ih
        obtain ⟨entry, held, parent_eq⟩ := hangs
        have held' := held
        rw [← reads.listed, List.getElem?_map] at held'
        obtain ⟨child, child_at, rfl⟩ := Option.map_eq_some_iff.mp held'
        have child_listed := List.mem_of_getElem? child_at
        obtain rfl := reads.id_eq child_at
        obtain ⟨parent, isParent, same⟩ := (reads.hangsFrom_iff child_listed).mp ⟨_, held, parent_eq⟩
        have upper_listed := mem_walk_iff.mpr ((mem_walk_iff.mp listed).trans (mem_walk_iff.mp walked))
        have parent_listed := mem_walk_iff.mpr
          ((mem_walk_iff.mp child_listed).root_reaches (.single isParent))
        obtain rfl := eq_of_id_eq reads.distinct parent_listed upper_listed same
        exact List.mem_map_of_mem (mem_walk_iff.mpr ((mem_walk_iff.mp walked).tail isParent))

theorem Reads.below_eq_filter (reads : Reads entries tree) (listed : site ∈ (root tree).walk) :
    site.below = site.walk.filter fun node => node.id != site.id := by
  rw [walk_eq_cons_below, List.filter_cons_of_neg (by simp), List.filter_eq_self.mpr]
  intro node below
  have later := reads.id_lt listed below
  simp only [bne_iff_ne]
  omega

theorem Reads.walksDown (reads : Reads entries tree) : WalksDown entries tree where
  toReads := reads
  visits _ _ := visits_iff
  stretch site listed := ⟨reads.walk_eq_stretch listed, by rw [walk_eq, List.head?_cons]⟩
  subtree _ listed := reads.mem_ids_iff listed
  descendants site listed kinds := by
    rw [descendants, reads.below_eq_filter listed]

end

/-! ## Going up -/

section

variable {wanted : Site → Bool}

/-- A climb along a chain of nodes finds the first of them that is wanted. -/
theorem climbs_chain_iff {nodes : List Tree} {outcome : Option Site} :
    Climbs wanted (chain nodes).head? outcome ↔ outcome = (chain nodes).find? wanted := by
  induction nodes with
  | nil =>
      constructor
      · intro climbs
        cases climbs
        rfl
      · rintro rfl
        exact .passed
  | cons tree above ih =>
      rw [chain, List.head?_cons, List.find?_cons]
      cases hit : wanted ⟨tree, above⟩ with
      | true =>
          constructor
          · intro climbs
            cases climbs with
            | found => rfl
            | higher missed => exact absurd (hit.symm.trans missed) Bool.noConfusion
          · rintro rfl
            exact .found hit
      | false =>
          rw [← ih]
          constructor
          · intro climbs
            cases climbs with
            | found hit' => exact absurd (hit.symm.trans hit') Bool.noConfusion
            | higher _ rest => exact rest
          · exact .higher hit

theorem climbs_parent?_iff {site : Site} {outcome : Option Site} :
    Climbs wanted site.parent? outcome ↔ outcome = site.ancestors.find? wanted :=
  climbs_chain_iff

theorem exists_climbs_isWithin (site other : Site) : ∃ outcome,
    Climbs (·.id == other.id) (some site) outcome ∧ site.isWithin other = outcome.isSome := by
  have climbs : Climbs (·.id == other.id) (chain (site.tree :: site.above)).head?
      ((chain (site.tree :: site.above)).find? (·.id == other.id)) := climbs_chain_iff.mpr rfl
  refine ⟨_, climbs, ?_⟩
  rw [List.isSome_find?]
  rfl

variable {entries : List Tree.Entry} {tree : Tree} {site upper : Site}

/-- The other nodes with the site in their walks are those above it. -/
theorem Reads.mem_ancestors_iff (reads : Reads entries tree) (listed : site ∈ (root tree).walk) :
    upper ∈ site.ancestors ↔ upper ∈ (root tree).walk ∧ upper.id ≠ site.id ∧ site ∈ upper.walk := by
  have reached := mem_walk_iff.mp listed
  have walked_iff : site ∈ upper.walk ↔ upper.Reaches site := mem_walk_iff
  rw [walked_iff]
  constructor
  · intro member
    have reaches := (Site.mem_ancestors_iff reached).mp (List.mem_cons_of_mem _ member)
    have upper_listed := mem_walk_iff.mpr (reached.root_reaches reaches)
    refine ⟨upper_listed, fun same => ?_, reaches⟩
    obtain rfl := eq_of_id_eq reads.distinct upper_listed listed same
    exact absurd (depth_of_mem_chain member) (Nat.lt_irrefl _)
  · rintro ⟨-, other, reaches⟩
    refine (List.mem_cons.mp ((Site.mem_ancestors_iff reached).mpr reaches)).resolve_left ?_
    rintro rfl
    exact other rfl

theorem Reads.encloses_iff (reads : Reads entries tree) (listed : site ∈ (root tree).walk) :
    Encloses tree wanted site upper ↔ upper ∈ site.ancestors ∧ wanted upper = true := by
  rw [reads.mem_ancestors_iff listed]
  constructor
  · rintro ⟨listed, other, walked, hit⟩
    exact ⟨⟨listed, other, walked⟩, hit⟩
  · rintro ⟨⟨listed, other, walked⟩, hit⟩
    exact ⟨listed, other, walked, hit⟩

/-- The nearest of the nodes above comes last in the list. -/
theorem Reads.pairwise_ancestors (reads : Reads entries tree) (reached : (root tree).Reaches site) :
    site.ancestors.Pairwise fun nearer farther => farther.id < nearer.id := by
  induction reached with
  | refl => exact .nil
  | @tail parent child before isParent ih =>
      obtain ⟨tree, -, rfl⟩ := isParent_iff.mp isParent
      rw [ancestors_under]
      refine List.pairwise_cons.mpr ⟨fun farther member => ?_, ih⟩
      obtain ⟨listed, other, walked⟩ := (reads.mem_ancestors_iff (mem_walk_iff.mpr before)).mp member
      rw [walk_eq_cons_below] at walked
      rcases List.mem_cons.mp walked with rfl | below
      · exact absurd rfl other
      · exact reads.id_lt listed below

theorem Reads.isNearest_find? (reads : Reads entries tree) (listed : site ∈ (root tree).walk) :
    IsNearest tree wanted site (site.ancestors.find? wanted) where
  some_iff upper := by
    simp only [reads.encloses_iff listed]
    have ordered := reads.pairwise_ancestors (mem_walk_iff.mp listed)
    constructor
    · intro found
      obtain ⟨hit, before, after, split, missed⟩ := List.find?_eq_some_iff_append.mp found
      rw [split] at ordered ⊢
      refine ⟨⟨by simp, hit⟩, ?_⟩
      rintro other ⟨member, hit'⟩
      rcases List.mem_append.mp member with earlier | member
      · exact absurd hit' (by simpa using missed other earlier)
      · rcases List.mem_cons.mp member with rfl | later
        · exact Nat.le_refl _
        · have rest := (List.pairwise_append.mp ordered).2.1
          exact Nat.le_of_lt (List.rel_of_pairwise_cons rest later)
    · rintro ⟨⟨member, hit⟩, last⟩
      cases found : site.ancestors.find? wanted with
      | none => exact absurd hit (List.find?_eq_none.mp found upper member)
      | some nearest =>
          obtain ⟨hit', before, after, split, missed⟩ := List.find?_eq_some_iff_append.mp found
          have le := last nearest ⟨by simp [split], hit'⟩
          rw [split] at ordered member
          rcases List.mem_append.mp member with earlier | member
          · exact absurd hit (by simpa using missed upper earlier)
          · rcases List.mem_cons.mp member with rfl | later
            · rfl
            · have rest := (List.pairwise_append.mp ordered).2.1
              have lt := List.rel_of_pairwise_cons rest later
              omega
  none_iff := by
    simp only [reads.encloses_iff listed, List.find?_eq_none, not_and]

theorem Reads.climbsUp (reads : Reads entries tree) : ClimbsUp tree where
  within site listed other listed' := by
    rw [isWithin_iff reads.distinct listed listed', mem_walk_iff]
  withinClimb := exists_climbs_isWithin
  ancestor _ listed _ := reads.isNearest_find? listed
  ancestorClimb _ _ _ := climbs_parent?_iff
  function _ listed := reads.isNearest_find? listed
  functionClimb _ _ := climbs_parent?_iff

end

/-- Every list of the nodes of a tree in pre-order is read as a tree on which walking down and climbing
up agree with the list and with each other. -/
theorem walks_climbs_of_isPreorder {entries : List Tree.Entry} (preorder : Tree.IsPreorder entries) :
    ∃ tree, Tree.ofPreorder? entries = some tree ∧ WalksDown entries tree ∧ ClimbsUp tree := by
  obtain ⟨tree, read⟩ := preorder.exists_ofPreorder?
  have reads := reads_of_isPreorder preorder read
  exact ⟨tree, read, reads.walksDown, reads.climbsUp⟩

/-- A program with a function, its name and its block, and a text after it. -/
def smallProgram : List Tree.Entry :=
  [⟨none, ⟨0, "program", "", true, ⟨0, 18⟩⟩⟩,
    ⟨some 0, ⟨1, "function_declaration", "", true, ⟨0, 15⟩⟩⟩,
    ⟨some 1, ⟨2, "identifier", "name", true, ⟨9, 10⟩⟩⟩,
    ⟨some 1, ⟨3, "statement_block", "body", true, ⟨13, 15⟩⟩⟩,
    ⟨some 0, ⟨4, "string", "", true, ⟨16, 18⟩⟩⟩]

theorem isPreorder_smallProgram : Tree.IsPreorder smallProgram where
  numbered := rfl
  root := ⟨_, _, rfl⟩
  next {position entry} held := by
    have function : Tree.HangsFrom smallProgram 1 0 := ⟨_, rfl, rfl⟩
    have name : Tree.HangsFrom smallProgram 2 1 := ⟨_, rfl, rfl⟩
    have block : Tree.HangsFrom smallProgram 3 1 := ⟨_, rfl, rfl⟩
    rcases position with _ | _ | _ | _ | position
    · obtain rfl := Option.some.inj held
      exact ⟨0, rfl, .refl⟩
    · obtain rfl := Option.some.inj held
      exact ⟨1, rfl, .refl⟩
    · obtain rfl := Option.some.inj held
      exact ⟨1, rfl, .single name⟩
    · obtain rfl := Option.some.inj held
      exact ⟨0, rfl, .head block (.single function)⟩
    · contradiction

theorem walks_climbs_smallProgram :
    Tree.IsPreorder smallProgram ∧ ∃ tree, Tree.ofPreorder? smallProgram = some tree ∧
      WalksDown smallProgram tree ∧ ClimbsUp tree :=
  ⟨isPreorder_smallProgram, walks_climbs_of_isPreorder isPreorder_smallProgram⟩

end Site

end Hazard
