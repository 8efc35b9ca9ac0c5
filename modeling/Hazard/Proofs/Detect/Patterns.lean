import Hazard.Detect.Binding
import Hazard.Proofs.Syntax.Ancestry
import Mathlib.Data.List.Flatten

/-!
# Steps inside patterns

Inside a pattern one goes from a parameter to its pattern, from a default to what it is the default of,
from a pair to its value, and from an array, object or rest pattern to each of its members.  The names
that are found in a pattern are the names to which such steps lead, in the order in which the nodes are
walked, each with what the patterns on the way tell of it.
-/

namespace Hazard
namespace Binding

/-- One goes from a pattern to a pattern in it. -/
inductive PatternStep (site inner : Site) : Prop
  | wrapped (kind : site.kind ∈ ["required_parameter", "optional_parameter"])
      (held : site.child? "pattern" = some inner)
  | default (kind : site.kind ∈ ["assignment_pattern", "object_assignment_pattern"])
      (held : site.child? "left" = some inner)
  | pair (kind : site.kind = "pair_pattern") (held : site.child? "value" = some inner)
  | member (kind : site.kind ∈ ["array_pattern", "object_pattern", "rest_pattern"])
      (listed : inner ∈ site.namedChildren)

/-- Steps lead from the first node to the last, from each of the listed nodes to the next. -/
inductive Leads : Site → List Site → Site → Prop
  | here (site : Site) : Leads site [] site
  | step {site inner last : Site} {via : List Site} (first : PatternStep site inner)
      (rest : Leads inner via last) : Leads site (site :: via) last

section

variable {site inner last : Site} {via : List Site} {nesting : Nesting}

/-- The patterns in a pattern. -/
def patternsIn (site : Site) : List Site :=
  match step? site.kind with
  | none => []
  | some (.field name) => (site.child? name).toList
  | some .members => site.namedChildren

theorem mem_patternsIn_iff : inner ∈ patternsIn site ↔ PatternStep site inner := by
  constructor
  · intro member
    rw [patternsIn, step?] at member
    split_ifs at member with wrapped default pair members
    · exact .wrapped (by simpa using wrapped) (by simpa using member)
    · exact .default (by simpa using default) (by simpa using member)
    · exact .pair (by simpa using pair) (by simpa using member)
    · exact .member (by simpa using members) member
    · contradiction
  · intro step
    rw [patternsIn]
    cases step with
    | wrapped kind held =>
        have next : step? site.kind = some (.field "pattern") := by
          rcases List.mem_pair.mp kind with same | same <;> simp [step?, same]
        simp [next, held]
    | default kind held =>
        have next : step? site.kind = some (.field "left") := by
          rcases List.mem_pair.mp kind with same | same <;> simp [step?, same]
        simp [next, held]
    | pair kind held => simp [step?, kind, held]
    | member kind listed =>
        have next : step? site.kind = some .members := by
          simp only [List.mem_cons, List.not_mem_nil, or_false] at kind
          rcases kind with same | same | same <;> simp [step?, same]
        rwa [next]

theorem PatternStep.isParent (step : PatternStep site inner) : Site.IsParent site inner := by
  cases step with
  | wrapped _ held | default _ held | pair _ held => exact Site.isParent_of_child? held
  | member _ listed => exact Site.isParent_of_mem_namedChildren listed

/-- One goes on from no node of a kind without steps. -/
theorem PatternStep.step?_ne_none (step : PatternStep site inner) : step? site.kind ≠ none := by
  intro stuck
  have member := mem_patternsIn_iff.mpr step
  rw [patternsIn, stuck] at member
  contradiction

theorem step?_of_name (name : site.kind ∈ nameKinds) : step? site.kind = none := by
  rcases List.mem_pair.mp name with same | same <;> simp [step?, same]

theorem patternsIn_sublist (site : Site) : (patternsIn site).Sublist site.children := by
  rw [patternsIn]
  split
  · exact List.nil_sublist _
  · rename_i name _
    cases held : site.child? name with
    | none => exact List.nil_sublist _
    | some child =>
        exact List.singleton_sublist.mpr (Site.isParent_of_child? held)
  · exact List.filter_sublist.map _

theorem Leads.reaches (leads : Leads site via last) : site.Reaches last := by
  induction leads with
  | here => exact .refl
  | step first _ ih => exact .head first.isParent ih

/-- On the way one leaves patterns only, so a node under no pattern is where one starts. -/
theorem Leads.eq_of_reaches {first second parent : Site} (leads : Leads first via last)
    (isParent : Site.IsParent parent second) (stuck : step? parent.kind = none)
    (down : first.Reaches second) (up : second.Reaches last) : first = second := by
  induction leads with
  | here => exact down.antisymm up
  | @step start inner _ via step rest ih =>
      have other : inner ≠ second := by
        rintro rfl
        rw [isParent.unique step.isParent] at stuck
        exact step.step?_ne_none stuck
      rcases rest.reaches.total up with below | above
      · exact absurd (ih below up) other
      · rcases (Site.reaches_iff_of_isParent step.isParent).mp above with same | above
        · exact absurd same.symm other
        · exact down.antisymm above

/-- There is one way at most. -/
theorem Leads.unique {via' : List Site} (leads : Leads site via last) (leads' : Leads site via' last) :
    via = via' := by
  induction leads generalizing via' with
  | here =>
      cases leads' with
      | here => rfl
      | step first rest =>
          have deeper := Site.depth_of_isParent first.isParent
          have back := rest.reaches.depth_le
          omega
  | @step start inner _ via first rest ih =>
      have deeper := Site.depth_of_isParent first.isParent
      cases leads' with
      | here =>
          have back := rest.reaches.depth_le
          omega
      | @step _ inner' _ via' first' rest' =>
          have deeper' := Site.depth_of_isParent first'.isParent
          have same : inner = inner' :=
            rest.reaches.eq_of_depth rest'.reaches (deeper.trans deeper'.symm)
          subst same
          rw [ih rest']

theorem namesInField_eq (field : String) (above trees : List Tree) (nesting : Nesting) :
    namesInField field above nesting trees =
      (trees.find? (·.label.field == field)).toList.flatMap (namesIn above nesting) := by
  induction trees with
  | nil => rfl
  | cons tree trees ih =>
      rw [namesInField, List.find?_cons, ih]
      cases tree.label.field == field <;> simp

theorem namesInMembers_eq (above trees : List Tree) (nesting : Nesting) :
    namesInMembers above nesting trees =
      (trees.filter (·.named)).flatMap (namesIn above nesting) := by
  induction trees with
  | nil => rfl
  | cons tree trees ih =>
      rw [namesInMembers, List.filter_cons, ih]
      cases tree.named <;> simp

/-- The names in a pattern, each with what the patterns around it tell. -/
def names (site : Site) (nesting : Nesting) : List (Site × Nesting) :=
  namesIn site.above nesting site.tree

/-- A name is found where it is, and all others in the patterns of a pattern. -/
theorem names_eq (site : Site) (nesting : Nesting) :
    names site nesting =
      if site.kind ∈ nameKinds then [(site, nesting)]
      else (patternsIn site).flatMap fun inner => names inner (nesting.inside site.kind) := by
  obtain ⟨⟨label, children⟩, above⟩ := site
  have kind : Site.kind ⟨.node label children, above⟩ = label.kind := rfl
  rw [names, namesIn, patternsIn, kind]
  by_cases name : label.kind ∈ nameKinds
  · rw [if_pos name, if_pos (by simpa using name)]
  · rw [if_neg name, if_neg (by simpa using name)]
    cases step? label.kind with
    | none => rfl
    | some next =>
        cases next with
        | field field =>
            simp only [namesInField_eq, Site.child?, Tree.child?, Tree.children]
            cases children.find? (·.label.field == field) <;> simp [names, Site.under]
        | members =>
            simp only [namesInMembers_eq, Site.namedChildren, Tree.namedChildren, Tree.children,
              List.flatMap_map]
            rfl

/-- The names in a pattern are the names to which steps lead. -/
theorem mem_names_iff {told : Nesting} :
    (last, told) ∈ names site nesting ↔ ∃ via, Leads site via last ∧ last.kind ∈ nameKinds ∧
      told = via.foldl (fun nesting pattern => nesting.inside pattern.kind) nesting := by
  obtain ⟨tree, above⟩ := site
  induction tree using Tree.induction generalizing above nesting with
  | node label children ih =>
      rw [names_eq]
      split
      · rename_i name
        rw [List.mem_singleton]
        constructor
        · intro same
          obtain ⟨rfl, rfl⟩ := Prod.mk.inj same
          exact ⟨[], .here _, name, rfl⟩
        · rintro ⟨via, leads, -, rfl⟩
          cases leads with
          | here => rfl
          | step first _ => exact absurd (step?_of_name name) first.step?_ne_none
      · rename_i other
        rw [List.mem_flatMap]
        constructor
        · rintro ⟨inner, member, found⟩
          have step := mem_patternsIn_iff.mp member
          obtain ⟨tree, child, rfl⟩ := Site.isParent_iff.mp step.isParent
          obtain ⟨via, leads, name, told⟩ := (ih tree child _).mp found
          exact ⟨_ :: via, .step step leads, name, told⟩
        · rintro ⟨via, leads, name, told⟩
          cases leads with
          | here => contradiction
          | @step _ inner _ via first rest =>
              obtain ⟨tree, child, rfl⟩ := Site.isParent_iff.mp first.isParent
              exact ⟨_, mem_patternsIn_iff.mpr first, (ih tree child _).mpr ⟨via, rest, name, told⟩⟩

/-- The names in a pattern stand in the order in which the nodes are walked. -/
theorem names_sublist (site : Site) (nesting : Nesting) :
    ((names site nesting).map Prod.fst).Sublist site.walk := by
  obtain ⟨tree, above⟩ := site
  induction tree using Tree.induction generalizing above nesting with
  | node label children ih =>
      rw [names_eq, Site.walk_eq]
      split
      · exact (List.nil_sublist _).cons_cons _
      · refine .cons _ ?_
        rw [List.map_flatMap]
        refine .trans (.flatMap_right _ fun inner member => ?_)
          ((patternsIn_sublist _).flatMap Site.walk)
        obtain ⟨tree, child, rfl⟩ :=
          Site.isParent_iff.mp (mem_patternsIn_iff.mp member).isParent
        exact ih tree child _ _

theorem inside_foldl (nesting : Nesting) (via : List Site) :
    via.foldl (fun nesting pattern => nesting.inside pattern.kind) nesting =
      { inArray := nesting.inArray || via.any (·.kind == "array_pattern")
        destructured := nesting.destructured || via.any fun pattern =>
          pattern.kind == "array_pattern" || pattern.kind == "object_pattern" } := by
  induction via generalizing nesting with
  | nil => simp
  | cons pattern via ih =>
      rw [List.foldl_cons, ih]
      simp [Nesting.inside, Bool.or_assoc]

end

end Binding
end Hazard
