import Hazard.Detect.Binding
import Hazard.Proofs.Syntax.Ancestry
import Mathlib.Order.MinMax

/-!
# The room that patterns take

A pattern in a pattern is read by a call in a call.  How many nested calls a pattern takes follows from its
shape alone, so the bindings of a file are collected exactly if the room for nested calls holds the deepest
of its patterns, and otherwise the collection fails.  A file whose tree is lower than the room is collected
in any case.
-/

namespace Hazard
namespace Binding

mutual

/-- The number of nested calls that reading a pattern takes; a name takes one call for its text. -/
def callsIn : Tree → Nat
  | .node label children =>
    if nameKinds.contains label.kind then 2
    else match step? label.kind with
      | none => 1
      | some (.field name) => callsInField name children + 1
      | some .members => callsInMembers children + 1

/-- The calls for the first of several patterns that is held under a name. -/
def callsInField (field : String) : List Tree → Nat
  | [] => 0
  | tree :: trees => if tree.label.field == field then callsIn tree else callsInField field trees

/-- The calls for the deepest of the patterns that the grammar names. -/
def callsInMembers : List Tree → Nat
  | [] => 0
  | tree :: trees => max (if tree.named then callsIn tree else 0) (callsInMembers trees)

end

/-- The result, if there is room for the calls it takes. -/
def within {α : Type} (room calls : Nat) (result : α) : Except Failure α :=
  if calls ≤ room then .ok result else .error .tooDeep

section

variable {α β : Type} {room calls : Nat}

theorem within_of_le (fits : calls ≤ room) (result : α) : within room calls result = .ok result :=
  if_pos fits

theorem within_of_lt (exceeds : room < calls) (result : α) :
    within room calls result = .error .tooDeep :=
  if_neg (Nat.not_le.mpr exceeds)

theorem within_eq_ok_iff {result other : α} :
    within room calls result = .ok other ↔ calls ≤ room ∧ result = other := by
  rcases Nat.lt_or_ge room calls with exceeds | fits
  · simp [within_of_lt exceeds, exceeds]
  · simp [within_of_le fits, fits]

theorem within_eq_error_iff {result : α} {failure : Failure} :
    within room calls result = .error failure ↔ failure = .tooDeep ∧ room < calls := by
  rcases Nat.lt_or_ge room calls with exceeds | fits
  · simp [within_of_lt exceeds, exceeds, eq_comm]
  · simp [within_of_le fits, Nat.not_lt.mpr fits]

theorem within_bind_pure (result : α) (next : α → β) :
    (do pure (next (← within room calls result))) = within room calls (next result) := by
  rcases Nat.lt_or_ge room calls with exceeds | fits
  · rw [within_of_lt exceeds, within_of_lt exceeds]
    rfl
  · rw [within_of_le fits, within_of_le fits]
    rfl

theorem map_within (result : α) (next : α → β) :
    (within room calls result).map next = within room calls (next result) :=
  within_bind_pure result next

theorem within_succ (result : α) : within (room + 1) (calls + 1) result = within room calls result :=
  if_congr Nat.add_le_add_iff_right rfl rfl

/-- Two results take the room of the one that takes more. -/
theorem within_append {further : Nat} (first second : List α) :
    (do
      let these ← within room calls first
      let those ← within room further second
      pure (these ++ those)) = within room (max calls further) (first ++ second) := by
  rcases Nat.lt_or_ge room calls with exceeds | fits
  · rw [within_of_lt exceeds, within_of_lt (lt_max_of_lt_left exceeds)]
    rfl
  · rw [within_of_le fits]
    rcases Nat.lt_or_ge room further with exceeds | fits'
    · rw [within_of_lt exceeds, within_of_lt (lt_max_of_lt_right exceeds)]
      rfl
    · rw [within_of_le fits', within_of_le (max_le fits fits')]
      rfl

/-- The largest of several numbers. -/
def largest (numbers : List Nat) : Nat := numbers.foldr max 0

theorem largest_le_iff {numbers : List Nat} :
    largest numbers ≤ room ↔ ∀ number ∈ numbers, number ≤ room := by
  induction numbers with
  | nil => exact ⟨fun _ => List.forall_mem_nil _, fun _ => Nat.zero_le room⟩
  | cons number rest ih =>
      rw [List.forall_mem_cons, ← ih]
      exact max_le_iff

/-- Several results take the room of the one that takes most. -/
theorem mapM_within {items : List α} {look : α → Except Failure (List β)}
    {calls : α → Nat} {result : α → List β}
    (looks : ∀ a ∈ items, look a = within room (calls a) (result a)) :
    (do pure (← items.mapM look).flatten) =
      within room (largest (items.map calls)) (items.flatMap result) := by
  induction items with
  | nil => exact (within_of_le (Nat.zero_le room) []).symm
  | cons a rest ih =>
      obtain ⟨here, there⟩ := List.forall_mem_cons.mp looks
      have joined : (do pure (← (a :: rest).mapM look).flatten : Except Failure (List β)) =
          (do
            let these ← look a
            let those ← (do pure (← rest.mapM look).flatten)
            pure (these ++ those)) := by
        rw [List.mapM_cons]
        cases look a with
        | error failure => rfl
        | ok these => cases rest.mapM look <;> rfl
      rw [joined, here, ih there, within_append]
      rfl

end

/-! ## Patterns -/

mutual

/-- Reading a pattern gives its names if there is room for the calls it takes. -/
theorem namesWithin_eq (above : List Tree) (room : Nat) (nesting : Nesting) :
    (tree : Tree) → namesWithin above room nesting tree =
      within room (callsIn tree) (namesIn above nesting tree)
  | .node label children => by
    cases room with
    | zero =>
        refine (within_of_lt ?_ _).symm
        rw [callsIn]
        split
        · exact Nat.two_pos
        · split <;> omega
    | succ room =>
        rw [namesWithin, callsIn, namesIn]
        cases nameKinds.contains label.kind with
        | true => cases room <;> rfl
        | false =>
            simp only [Bool.false_eq_true, if_false]
            cases step? label.kind with
            | none => exact (within_of_le (Nat.le_add_left 1 room) _).symm
            | some step =>
                cases step with
                | field name => exact (fieldWithin_eq ..).trans (within_succ _).symm
                | members => exact (membersWithin_eq ..).trans (within_succ _).symm

theorem fieldWithin_eq (field : String) (above : List Tree) (room : Nat) (nesting : Nesting) :
    (trees : List Tree) → fieldWithin field above room nesting trees =
      within room (callsInField field trees) (namesInField field above nesting trees)
  | [] => (within_of_le (Nat.zero_le room) []).symm
  | tree :: trees => by
    rw [fieldWithin, callsInField, namesInField]
    split
    · exact namesWithin_eq above room nesting tree
    · exact fieldWithin_eq field above room nesting trees

theorem membersWithin_eq (above : List Tree) (room : Nat) (nesting : Nesting) :
    (trees : List Tree) → membersWithin above room nesting trees =
      within room (callsInMembers trees) (namesInMembers above nesting trees)
  | [] => (within_of_le (Nat.zero_le room) []).symm
  | tree :: trees => by
    rw [membersWithin, callsInMembers, namesInMembers, ← within_append,
      membersWithin_eq above room nesting trees]
    split
    · rw [namesWithin_eq above room nesting tree]
    · rw [within_of_le (Nat.zero_le room)]
      rfl

end

/-! ## Files -/

variable (room : Nat) (source : Source)

theorem ofPatternWithin_eq (declaration : Site) (inLoopHeader : Bool) (pattern : Site) :
    ofPatternWithin room source declaration inLoopHeader pattern =
      within room (callsIn pattern.tree) (ofPattern source declaration inLoopHeader pattern) := by
  rw [ofPatternWithin, namesWithin_eq]
  exact within_bind_pure _ _

/-- The nested calls that the bindings of a node take. -/
def callsAt (site : Site) : Nat :=
  if site.kind == "variable_declarator" then (site.child? "name").elim 0 (callsIn ·.tree)
  else if site.kind == "for_in_statement" then
    if ["const", "let", "var"].any site.hasChild then (site.child? "left").elim 0 (callsIn ·.tree)
    else 0
  else if site.kind == "catch_clause" then (site.child? "parameter").elim 0 (callsIn ·.tree)
  else if site.isFunction then largest ((parameters site).map (callsIn ·.tree)) + 1
  else 0

theorem ofParametersWithin_eq (function : Site) :
    ofParametersWithin room source function =
      within room (largest ((parameters function).map (callsIn ·.tree)) + 1)
        (ofParameters source function) := by
  cases room with
  | zero => exact (within_of_lt (Nat.succ_pos _) _).symm
  | succ room =>
      have read :
          (do pure (← (parameters function).mapM fun parameter =>
            ofPatternWithin room source parameter false parameter).flatten) =
            within room (largest ((parameters function).map (callsIn ·.tree)))
              ((parameters function).flatMap fun parameter =>
                ofPattern source parameter false parameter) :=
        mapM_within fun parameter _ => ofPatternWithin_eq room source parameter false parameter
      have marked : ofParameters source function =
          ((parameters function).flatMap fun parameter =>
            ofPattern source parameter false parameter).map fun binding =>
              { binding with isParameter := true, owner := some function } :=
        List.map_flatMap.symm
      rw [within_succ, marked, ← within_bind_pure, ← read, bind_assoc]
      rfl

theorem ofSiteWithin_eq (site : Site) :
    ofSiteWithin room source site = within room (callsAt site) (ofSite source site) := by
  have nothing : (.ok [] : Except Failure (List Binding)) = within room 0 [] :=
    (within_of_le (Nat.zero_le room) []).symm
  unfold ofSiteWithin callsAt ofSite
  cases site.kind == "variable_declarator" with
  | true =>
      cases site.child? "name" with
      | none => exact nothing
      | some pattern => exact ofPatternWithin_eq room source site _ pattern
  | false =>
      cases site.kind == "for_in_statement" with
      | true =>
          cases site.child? "left" with
          | none =>
              cases ["const", "let", "var"].any site.hasChild <;> exact nothing
          | some pattern =>
              cases ["const", "let", "var"].any site.hasChild with
              | false => exact nothing
              | true => exact ofPatternWithin_eq room source site true pattern
      | false =>
          cases site.kind == "catch_clause" with
          | true =>
              cases site.child? "parameter" with
              | none => exact nothing
              | some pattern => exact ofPatternWithin_eq room source site false pattern
          | false =>
              cases site.isFunction with
              | true => exact ofParametersWithin_eq room source site
              | false => exact nothing

/-- The nested calls that the bindings of a file take. -/
def callsFor (source : Source) : Nat := largest (source.walk.map callsAt)

/-- The bindings of a file are collected if there is room for the deepest of its patterns. -/
theorem collectWithin_eq :
    collectWithin room source = within room (callsFor source) (collect source) :=
  mapM_within fun site _ => ofSiteWithin_eq room source site

end Binding

/-! ## Heights -/

namespace Tree

mutual

/-- The number of nodes on the longest way down. -/
def height : Tree → Nat
  | .node _ children => tallest children + 1

/-- The height of the tallest of several trees. -/
def tallest : List Tree → Nat
  | [] => 0
  | tree :: trees => max (height tree) (tallest trees)

end

theorem height_le_tallest {tree : Tree} {trees : List Tree} (member : tree ∈ trees) :
    tree.height ≤ tallest trees := by
  induction trees with
  | nil => exact absurd member List.not_mem_nil
  | cons first rest ih =>
      rw [tallest]
      rcases List.mem_cons.mp member with rfl | member
      · exact Nat.le_max_left _ _
      · exact (ih member).trans (Nat.le_max_right _ _)

theorem height_lt_of_mem_children {tree child : Tree} (member : child ∈ tree.children) :
    child.height < tree.height := by
  obtain ⟨label, children⟩ := tree
  rw [height]
  exact Nat.lt_succ_of_le (height_le_tallest member)

end Tree

theorem Site.height_lt_of_isParent {parent child : Site} (isParent : parent.IsParent child) :
    child.tree.height < parent.tree.height := by
  obtain ⟨tree, member, rfl⟩ := Site.isParent_iff.mp isParent
  exact Tree.height_lt_of_mem_children member

theorem Site.height_le_of_reaches {top site : Site} (reaches : top.Reaches site) :
    site.tree.height ≤ top.tree.height := by
  induction reaches with
  | refl => exact le_rfl
  | tail _ last ih => exact (Site.height_lt_of_isParent last).le.trans ih

namespace Binding

mutual

/-- A pattern takes at most one call more than its tree is high. -/
theorem callsIn_le_height : (tree : Tree) → callsIn tree ≤ tree.height + 1
  | .node label children => by
    have inField (field : String) := callsInField_le_tallest field children
    have inMembers := callsInMembers_le_tallest children
    rw [callsIn, Tree.height]
    split
    · omega
    · split
      · omega
      · exact Nat.succ_le_succ (inField _)
      · exact Nat.succ_le_succ inMembers

theorem callsInField_le_tallest (field : String) :
    (trees : List Tree) → callsInField field trees ≤ Tree.tallest trees + 1
  | [] => Nat.zero_le _
  | tree :: trees => by
    have here := callsIn_le_height tree
    have there := callsInField_le_tallest field trees
    rw [callsInField, Tree.tallest]
    split <;> omega

theorem callsInMembers_le_tallest :
    (trees : List Tree) → callsInMembers trees ≤ Tree.tallest trees + 1
  | [] => Nat.zero_le _
  | tree :: trees => by
    have here := callsIn_le_height tree
    have there := callsInMembers_le_tallest trees
    rw [callsInMembers, Tree.tallest]
    split <;> omega

end

theorem callsIn_le_of_isParent {parent child : Site} (isParent : parent.IsParent child) :
    callsIn child.tree ≤ parent.tree.height :=
  (callsIn_le_height child.tree).trans (Site.height_lt_of_isParent isParent)

theorem callsIn_le_of_child? (site : Site) (field : String) :
    (site.child? field).elim 0 (callsIn ·.tree) ≤ site.tree.height := by
  cases held : site.child? field with
  | none => exact Nat.zero_le _
  | some child => exact callsIn_le_of_isParent (Site.isParent_of_child? held)

theorem callsIn_le_of_mem_parameters {function parameter : Site}
    (member : parameter ∈ parameters function) : callsIn parameter.tree ≤ function.tree.height := by
  rw [parameters] at member
  split at member
  · rename_i single held
    obtain rfl := List.mem_singleton.mp member
    exact callsIn_le_of_isParent (Site.isParent_of_child? held)
  · split at member
    · rename_i list held
      have inList := callsIn_le_of_isParent (Site.isParent_of_mem_namedChildren member)
      exact inList.trans (Site.height_lt_of_isParent (Site.isParent_of_child? held)).le
    · exact absurd member List.not_mem_nil

theorem callsAt_le_height (site : Site) : callsAt site ≤ site.tree.height + 1 := by
  have held (field : String) := Nat.le_succ_of_le (callsIn_le_of_child? site field)
  rw [callsAt]
  split_ifs
  · exact held "name"
  · exact held "left"
  · exact Nat.zero_le _
  · exact held "parameter"
  · refine Nat.succ_le_succ (largest_le_iff.mpr ?_)
    rw [List.forall_mem_map]
    exact fun parameter member => callsIn_le_of_mem_parameters member
  · exact Nat.zero_le _

/-- The bindings of a file take at most one call more than its tree is high. -/
theorem callsFor_le_height (source : Source) : callsFor source ≤ source.tree.height + 1 := by
  refine largest_le_iff.mpr ?_
  rw [List.forall_mem_map]
  intro site member
  have below := Site.height_le_of_reaches (Site.mem_walk_iff.mp member)
  exact (callsAt_le_height site).trans (Nat.succ_le_succ below)

/-! ## Deep patterns -/

/-- A name inside so many array patterns, from an offset and a number on. -/
def nestedPattern (field : String) : Nat → Nat → Nat → Tree
  | 0, start, id => .node ⟨id, "identifier", field, true, ⟨start, start + 1⟩⟩ []
  | levels + 1, start, id =>
    .node ⟨id, "array_pattern", field, true, ⟨start, start + 2 * levels + 3⟩⟩
      [.node ⟨id + 1, "[", "", false, ⟨start, start + 1⟩⟩ [],
        nestedPattern "" levels (start + 1) (id + 2),
        .node ⟨id + 3 * levels + 3, "]", "", false,
          ⟨start + 2 * levels + 2, start + 2 * levels + 3⟩⟩ []]

theorem callsIn_nestedPattern (field : String) (levels start id : Nat) :
    callsIn (nestedPattern field levels start id) = levels + 2 := by
  induction levels generalizing field start id with
  | zero => rfl
  | succ levels ih =>
      have named : (nestedPattern "" levels (start + 1) (id + 2)).named = true := by
        cases levels <;> rfl
      change max 0 (max (if (nestedPattern "" levels (start + 1) (id + 2)).named then
        callsIn (nestedPattern "" levels (start + 1) (id + 2)) else 0) 0) + 1 = levels + 3
      rw [named, if_pos rfl, ih, Nat.max_zero, Nat.zero_max]

/-- The declarator of a name inside so many array patterns. -/
def nestedDeclarator (levels : Nat) : Tree :=
  .node ⟨3, "variable_declarator", "", true, ⟨6, 2 * levels + 11⟩⟩
    [nestedPattern "name" levels 6 4,
      .node ⟨3 * levels + 5, "=", "", false, ⟨2 * levels + 8, 2 * levels + 9⟩⟩ [],
      .node ⟨3 * levels + 6, "identifier", "value", true, ⟨2 * levels + 10, 2 * levels + 11⟩⟩ []]

/-- A file that declares a name inside so many array patterns. -/
def nestedDeclaration (levels : Nat) : Source where
  path := "src/a.js"
  grammar := .javascript
  text := "const ".toList ++ List.replicate levels '[' ++ ['a'] ++ List.replicate levels ']' ++
    " = b;\n".toList
  tree :=
    .node ⟨0, "program", "", true, ⟨0, 2 * levels + 13⟩⟩
      [.node ⟨1, "lexical_declaration", "", true, ⟨0, 2 * levels + 12⟩⟩
        [.node ⟨2, "const", "kind", false, ⟨0, 5⟩⟩ [], nestedDeclarator levels,
          .node ⟨3 * levels + 7, ";", "", false, ⟨2 * levels + 11, 2 * levels + 12⟩⟩ []]]

/-- A name inside so many array patterns takes two calls more. -/
theorem le_callsFor_nestedDeclaration (levels : Nat) :
    levels + 2 ≤ callsFor (nestedDeclaration levels) := by
  have all : ∀ calls ∈ (nestedDeclaration levels).walk.map callsAt,
      calls ≤ callsFor (nestedDeclaration levels) := largest_le_iff.mp le_rfl
  rw [List.forall_mem_map] at all
  let root := (nestedDeclaration levels).root
  let statement := root.under (root.tree.children.head (List.cons_ne_nil _ _))
  have first : root.IsParent statement := Site.isParent_under (List.head_mem _)
  have second : statement.IsParent (statement.under (nestedDeclarator levels)) :=
    Site.isParent_under (List.mem_cons_of_mem _ List.mem_cons_self)
  have walked : statement.under (nestedDeclarator levels) ∈ (nestedDeclaration levels).walk :=
    Site.mem_walk_iff.mpr (.tail (.single first) second)
  have held : callsAt (statement.under (nestedDeclarator levels)) =
      callsIn (nestedPattern "name" levels 6 4) := by
    cases levels <;> rfl
  rw [← callsIn_nestedPattern "name" levels 6 4, ← held]
  exact all _ walked

end Binding
end Hazard
