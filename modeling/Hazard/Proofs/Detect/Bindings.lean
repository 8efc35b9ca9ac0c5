import Hazard.Proofs.Detect.Patterns
import Mathlib.Data.List.Nodup

/-!
# Names and where they are introduced

Every name of a file is introduced at one root, a pattern that a declarator, a loop, a catch clause or
a function holds, and steps inside patterns lead from the root to the name.  The nodes that hold roots
are no patterns, so a way that starts at one root meets no other.  Hence no name is collected twice, and
what is told of a name is told by its root and by the patterns on the way.
-/

namespace Hazard
namespace Binding

/-! ## Roots -/

/-- Where names are introduced: the node that introduces them and the pattern that holds them. -/
inductive Root where
  | declared (declarator pattern : Site)
  | looped (statement pattern : Site)
  | caught (clause pattern : Site)
  | passed (function pattern : Site)

/-- The pattern is a parameter of the function: the only one, or one in the list of them. -/
def IsParameter (function pattern : Site) : Prop :=
  function.child? "parameter" = some pattern ∨
    function.child? "parameter" = none ∧
      ∃ list, function.child? "parameters" = some list ∧ pattern ∈ list.namedChildren

/-- The declarator belongs to a statement in a counting loop that is not the loop's body. -/
def InHeader (declarator : Site) : Prop :=
  ∃ statement loop : Site, Site.IsParent statement declarator ∧ Site.IsParent loop statement ∧
    loop.kind = "for_statement" ∧ loop.child? "body" ≠ some statement

namespace Root

/-- The node that introduces the names. -/
def holder : Root → Site
  | .declared holder _ | .looped holder _ | .caught holder _ | .passed holder _ => holder

/-- The pattern that holds the names. -/
def pattern : Root → Site
  | .declared _ pattern | .looped _ pattern | .caught _ pattern | .passed _ pattern => pattern

/-- What the names are shown with: the node that introduces them, or the parameter. -/
def declaration : Root → Site
  | .passed _ pattern => pattern
  | root => root.holder

/-- The function whose parameter the pattern is. -/
def owner? : Root → Option Site
  | .passed function _ => some function
  | _ => none

/-- The names belong to the header of a loop. -/
def IsLoopHeader : Root → Prop
  | .declared declarator _ => InHeader declarator
  | .looped _ _ => True
  | _ => False

/-- The node introduces the names in the pattern. -/
def Introduces : Root → Prop
  | .declared declarator pattern =>
    declarator.kind = "variable_declarator" ∧ declarator.child? "name" = some pattern
  | .looped statement pattern =>
    statement.kind = "for_in_statement" ∧ statement.child? "left" = some pattern ∧
      ∃ word : Site, Site.IsParent statement word ∧ word.kind ∈ ["const", "let", "var"]
  | .caught clause pattern =>
    clause.kind = "catch_clause" ∧ clause.child? "parameter" = some pattern
  | .passed function pattern => function.isFunction = true ∧ IsParameter function pattern

/-- Whether the names are marked as belonging to the header of a loop. -/
def inLoopHeader : Root → Bool
  | .declared declarator _ => isInLoopHeader declarator
  | .looped _ _ => true
  | _ => false

/-- The binding of a name that the root introduces. -/
def bind (source : Source) (root : Root) (site : Site) (nesting : Nesting) : Binding where
  name := source.textOf site
  site := site
  declaration := root.declaration
  isParameter := root.owner?.isSome
  owner := root.owner?
  inLoopHeader := root.inLoopHeader
  inArrayPattern := nesting.inArray
  destructured := nesting.destructured

/-- The bindings of the names in the pattern. -/
def bindings (source : Source) (root : Root) : List Binding :=
  (names root.pattern {}).map fun (site, nesting) => root.bind source site nesting

end Root

/-- The roots at a node. -/
def rootsAt (site : Site) : List Root :=
  if site.kind == "variable_declarator" then (site.child? "name").toList.map (.declared site)
  else if site.kind == "for_in_statement" then
    if ["const", "let", "var"].any site.hasChild then
      (site.child? "left").toList.map (.looped site)
    else []
  else if site.kind == "catch_clause" then (site.child? "parameter").toList.map (.caught site)
  else if site.isFunction then (parameters site).map (.passed site)
  else []

theorem ofSite_eq (source : Source) (site : Site) :
    ofSite source site = (rootsAt site).flatMap (Root.bindings source) := by
  rw [ofSite, rootsAt]
  split_ifs
  · cases site.child? "name" with
    | none => rfl
    | some pattern => exact (List.append_nil _).symm
  · cases site.child? "left" with
    | none => rfl
    | some pattern => exact (List.append_nil _).symm
  · cases site.child? "left" <;> rfl
  · cases site.child? "parameter" with
    | none => rfl
    | some pattern => exact (List.append_nil _).symm
  · rw [ofParameters, List.flatMap_map]
    refine List.flatMap_congr fun parameter _ => ?_
    rw [ofPattern, List.map_map]
    rfl
  · rfl

/-- The roots of a file. -/
def roots (source : Source) : List Root := source.walk.flatMap rootsAt

theorem collect_eq (source : Source) :
    collect source = (roots source).flatMap (Root.bindings source) := by
  rw [collect, roots, List.flatMap_assoc]
  exact List.flatMap_congr fun site _ => ofSite_eq source site

theorem hasWord_iff {site : Site} :
    ["const", "let", "var"].any site.hasChild = true ↔
      ∃ word : Site, Site.IsParent site word ∧ word.kind ∈ ["const", "let", "var"] := by
  simp only [List.any_eq_true, Site.hasChild, Tree.hasChild, beq_iff_eq, Site.isParent_iff]
  constructor
  · rintro ⟨kind, listed, tree, child, rfl⟩
    exact ⟨site.under tree, ⟨tree, child, rfl⟩, listed⟩
  · rintro ⟨word, ⟨tree, child, rfl⟩, listed⟩
    exact ⟨tree.kind, listed, tree, child, rfl⟩

theorem mem_parameters_iff {function pattern : Site} :
    pattern ∈ parameters function ↔ IsParameter function pattern := by
  rw [parameters, IsParameter]
  cases function.child? "parameter" with
  | some single => simp [eq_comm]
  | none => cases function.child? "parameters" <;> simp

/-- A function is none of the other nodes that introduce names, and no pattern. -/
theorem kind_of_isFunction {site : Site} (isFunction : site.isFunction = true) :
    site.kind ≠ "variable_declarator" ∧ site.kind ≠ "for_in_statement" ∧
      site.kind ≠ "catch_clause" ∧ site.kind ≠ "formal_parameters" ∧ step? site.kind = none := by
  have kind : site.kind ∈ Tree.functionKinds :=
    List.contains_iff_mem.mp (Bool.and_eq_true_iff.mp isFunction).2
  have all : ∀ kind ∈ Tree.functionKinds,
      kind ≠ "variable_declarator" ∧ kind ≠ "for_in_statement" ∧ kind ≠ "catch_clause" ∧
        kind ≠ "formal_parameters" ∧ step? kind = none := by decide
  exact all _ kind

theorem mem_rootsAt_iff {root : Root} {site : Site} :
    root ∈ rootsAt site ↔ root.Introduces ∧ root.holder = site := by
  constructor
  · intro member
    rw [rootsAt] at member
    split_ifs at member with declarator loop word clause function
    · obtain ⟨pattern, held, rfl⟩ := List.mem_map.mp member
      exact ⟨⟨by simpa using declarator, by simpa using held⟩, rfl⟩
    · obtain ⟨pattern, held, rfl⟩ := List.mem_map.mp member
      exact ⟨⟨by simpa using loop, by simpa using held, hasWord_iff.mp word⟩, rfl⟩
    · contradiction
    · obtain ⟨pattern, held, rfl⟩ := List.mem_map.mp member
      exact ⟨⟨by simpa using clause, by simpa using held⟩, rfl⟩
    · obtain ⟨pattern, held, rfl⟩ := List.mem_map.mp member
      exact ⟨⟨function, mem_parameters_iff.mp held⟩, rfl⟩
    · contradiction
  · rintro ⟨introduces, rfl⟩
    rw [rootsAt]
    cases root with
    | declared declarator pattern =>
        obtain ⟨kind, held⟩ := introduces
        simp [Root.holder, kind, held]
    | looped statement pattern =>
        obtain ⟨kind, held, word⟩ := introduces
        simp [Root.holder, kind, held, hasWord_iff.mpr word]
    | caught clause pattern =>
        obtain ⟨kind, held⟩ := introduces
        simp [Root.holder, kind, held]
    | passed function pattern =>
        obtain ⟨isFunction, passed⟩ := introduces
        obtain ⟨noDeclarator, noLoop, noClause, -⟩ := kind_of_isFunction isFunction
        simp [Root.holder, noDeclarator, noLoop, noClause, isFunction, mem_parameters_iff, passed]

/-- Steps lead to the node from a root of the file. -/
structure Origin (source : Source) (root : Root) (via : List Site) (site : Site) : Prop where
  /-- The node that holds the root is one of the file. -/
  listed : root.holder ∈ source.walk
  /-- The root introduces names. -/
  introduces : root.Introduces
  /-- Steps lead from its pattern to the node. -/
  leads : Leads root.pattern via site

theorem mem_roots_iff {source : Source} {root : Root} :
    root ∈ roots source ↔ root.holder ∈ source.walk ∧ root.Introduces := by
  simp only [roots, List.mem_flatMap, mem_rootsAt_iff]
  constructor
  · rintro ⟨site, listed, introduces, rfl⟩
    exact ⟨listed, introduces⟩
  · rintro ⟨listed, introduces⟩
    exact ⟨root.holder, listed, introduces, rfl⟩

/-! ## Every name has one root -/

/-- The lists of parameters of a file's functions are what the grammar calls so. -/
def ListsParameters (source : Source) : Prop :=
  ∀ function ∈ source.walk, function.isFunction = true →
    ∀ list ∈ function.child? "parameters", list.kind = "formal_parameters"

instance (source : Source) : Decidable (ListsParameters source) :=
  inferInstanceAs (Decidable (∀ function ∈ source.walk, function.isFunction = true →
    ∀ list ∈ function.child? "parameters", list.kind = "formal_parameters"))

/-- The root that a pattern is, told by the node above it. -/
def rootUnder? (parent pattern : Site) : Option Root :=
  if parent.kind = "variable_declarator" then some (.declared parent pattern)
  else if parent.kind = "for_in_statement" then some (.looped parent pattern)
  else if parent.kind = "catch_clause" then some (.caught parent pattern)
  else if parent.kind = "formal_parameters" then parent.parent?.map (.passed · pattern)
  else some (.passed parent pattern)

section

variable {source : Source} {root other : Root} {site : Site} {via via' : List Site}

/-- The node above a root is no pattern and tells the root. -/
theorem exists_rootUnder? (lists : ListsParameters source) (listed : root.holder ∈ source.walk)
    (introduces : root.Introduces) :
    ∃ parent, Site.IsParent parent root.pattern ∧ step? parent.kind = none ∧
      rootUnder? parent root.pattern = some root := by
  cases root with
  | declared declarator pattern =>
      obtain ⟨kind, held⟩ := introduces
      exact ⟨declarator, Site.isParent_of_child? held, by simp [step?, kind],
        by simp [rootUnder?, kind, Root.pattern]⟩
  | looped statement pattern =>
      obtain ⟨kind, held, -⟩ := introduces
      exact ⟨statement, Site.isParent_of_child? held, by simp [step?, kind],
        by simp [rootUnder?, kind, Root.pattern]⟩
  | caught clause pattern =>
      obtain ⟨kind, held⟩ := introduces
      exact ⟨clause, Site.isParent_of_child? held, by simp [step?, kind],
        by simp [rootUnder?, kind, Root.pattern]⟩
  | passed function pattern =>
      obtain ⟨isFunction, single | ⟨-, list, held, member⟩⟩ := introduces
      · obtain ⟨noDeclarator, noLoop, noClause, noList, stuck⟩ := kind_of_isFunction isFunction
        exact ⟨function, Site.isParent_of_child? single, stuck,
          by simp [rootUnder?, noDeclarator, noLoop, noClause, noList, Root.pattern]⟩
      · have kind := lists function listed isFunction list held
        obtain ⟨tree, -, rfl⟩ := Option.map_eq_some_iff.mp held
        refine ⟨_, Site.isParent_of_mem_namedChildren member, by simp [step?, kind], ?_⟩
        rw [rootUnder?, kind]
        rfl

/-- A node has one root at most, and one way leads to it from there. -/
theorem Origin.unique (lists : ListsParameters source) (origin : Origin source root via site)
    (origin' : Origin source other via' site) : root = other ∧ via = via' := by
  obtain ⟨listed, introduces, leads⟩ := origin
  obtain ⟨listed', introduces', leads'⟩ := origin'
  obtain ⟨parent, above, stuck, told⟩ := exists_rootUnder? lists listed introduces
  obtain ⟨parent', above', stuck', told'⟩ := exists_rootUnder? lists listed' introduces'
  -- Of two patterns that reach one node, one lies on the way from the other, where one leaves patterns.
  have same : root.pattern = other.pattern := by
    rcases leads.reaches.total leads'.reaches with down | down
    · exact leads.eq_of_reaches above' stuck' down leads'.reaches
    · exact (leads'.eq_of_reaches above stuck down leads.reaches).symm
  rw [same] at above told
  rw [above.unique above', told'] at told
  obtain rfl := Option.some.inj told
  exact ⟨rfl, leads.unique leads'⟩

theorem Root.Introduces.reaches (introduces : root.Introduces) :
    root.holder.Reaches root.pattern := by
  cases root with
  | declared declarator pattern => exact .single (Site.isParent_of_child? introduces.2)
  | looped statement pattern => exact .single (Site.isParent_of_child? introduces.2.1)
  | caught clause pattern => exact .single (Site.isParent_of_child? introduces.2)
  | passed function pattern =>
      obtain ⟨-, single | ⟨-, list, held, member⟩⟩ := introduces
      · exact .single (Site.isParent_of_child? single)
      · exact .tail (.single (Site.isParent_of_child? held))
          (Site.isParent_of_mem_namedChildren member)

theorem nodup_parameters (distinct : source.tree.Distinct) (listed : site ∈ source.walk) :
    (parameters site).Nodup := by
  rw [parameters]
  split
  · exact List.nodup_singleton _
  · split
    · rename_i list held
      have inside := Source.mem_walk_of_isParent listed (Site.isParent_of_child? held)
      exact (Source.nodup_children distinct inside).sublist (List.filter_sublist.map _)
    · exact List.nodup_nil

theorem nodup_rootsAt (distinct : source.tree.Distinct) (listed : site ∈ source.walk) :
    (rootsAt site).Nodup := by
  have single (field : String) (make : Site → Root) :
      ((site.child? field).toList.map make).Nodup := by
    cases site.child? field <;> simp
  rw [rootsAt]
  split_ifs
  · exact single "name" _
  · exact single "left" _
  · exact List.nodup_nil
  · exact single "parameter" _
  · refine (nodup_parameters distinct listed).map fun first second same => ?_
    exact (Root.passed.inj same).2
  · exact List.nodup_nil

theorem nodup_roots (distinct : source.tree.Distinct) : (roots source).Nodup := by
  rw [roots, List.nodup_flatMap]
  refine ⟨fun site => nodup_rootsAt distinct, ?_⟩
  refine (Source.nodup_walk distinct).imp fun {first second} differ root member member' => ?_
  obtain ⟨-, rfl⟩ := mem_rootsAt_iff.mp member
  exact differ (mem_rootsAt_iff.mp member').2

theorem sites_bindings (source : Source) (root : Root) :
    (root.bindings source).map (·.site) = (names root.pattern {}).map Prod.fst :=
  List.map_map ..

theorem mem_sites_iff (member : root ∈ roots source) :
    site ∈ (root.bindings source).map (·.site) ↔
      site.kind ∈ nameKinds ∧ ∃ via, Origin source root via site := by
  obtain ⟨listed, introduces⟩ := mem_roots_iff.mp member
  rw [sites_bindings, List.mem_map]
  constructor
  · rintro ⟨⟨last, told⟩, found, rfl⟩
    obtain ⟨via, leads, name, -⟩ := mem_names_iff.mp found
    exact ⟨name, via, listed, introduces, leads⟩
  · rintro ⟨name, via, origin⟩
    exact ⟨⟨site, _⟩, mem_names_iff.mpr ⟨via, origin.leads, name, rfl⟩, rfl⟩

/-- No node is collected twice. -/
theorem nodup_sites (distinct : source.tree.Distinct) (lists : ListsParameters source) :
    ((collect source).map (·.site)).Nodup := by
  rw [collect_eq, List.map_flatMap, List.nodup_flatMap]
  constructor
  · intro root member
    obtain ⟨listed, introduces⟩ := mem_roots_iff.mp member
    have inside := Source.mem_walk_of_reaches listed introduces.reaches
    rw [sites_bindings]
    exact (Source.nodup_walk_of_mem distinct inside).sublist (names_sublist root.pattern {})
  · refine (nodup_roots distinct).pairwise_of_forall_ne ?_
    intro root member other member' differ site found found'
    obtain ⟨-, via, origin⟩ := (mem_sites_iff member).mp found
    obtain ⟨-, via', origin'⟩ := (mem_sites_iff member').mp found'
    exact differ (origin.unique lists origin').1

theorem isInLoopHeader_iff (distinct : source.tree.Distinct) (listed : site ∈ source.walk) :
    isInLoopHeader site = true ↔ InHeader site := by
  have body_iff {statement loop : Site} (inside : statement ∈ source.walk)
      (isParent : Site.IsParent loop statement) :
      (loop.child? "body").any (·.id == statement.id) = true ↔
        loop.child? "body" = some statement := by
    have above := Source.mem_walk_of_isParent_mem inside isParent
    rw [Option.any_eq_true]
    constructor
    · rintro ⟨body, held, same⟩
      have within := Source.mem_walk_of_isParent above (Site.isParent_of_child? held)
      rw [held, Source.eq_of_id_eq distinct within inside (beq_iff_eq.mp same)]
    · intro held
      exact ⟨statement, held, beq_self_eq_true _⟩
  rw [isInLoopHeader]
  constructor
  · intro header
    split at header
    · contradiction
    · rename_i statement found
      have isParent := (Source.parent?_eq_some_iff listed).mp found
      have inside := Source.mem_walk_of_isParent_mem listed isParent
      split at header
      · contradiction
      · rename_i loop found
        have isParent' := (Source.parent?_eq_some_iff inside).mp found
        rw [Bool.and_eq_true, beq_iff_eq, Bool.not_eq_true', Bool.eq_false_iff, Ne,
          body_iff inside isParent'] at header
        exact ⟨statement, loop, isParent, isParent', header⟩
  · rintro ⟨statement, loop, isParent, isParent', header⟩
    have inside := Source.mem_walk_of_isParent_mem listed isParent
    simp only [Site.parent?_of_isParent isParent, Site.parent?_of_isParent isParent']
    rwa [Bool.and_eq_true, beq_iff_eq, Bool.not_eq_true', Bool.eq_false_iff, Ne,
      body_iff inside isParent']

end

/-! ## What is told of a name -/

/-- The binding tells the name, its root and the patterns on the way to it. -/
structure BoundBy (source : Source) (root : Root) (via : List Site) (binding : Binding) : Prop where
  /-- Steps lead to the name from the root. -/
  origin : Origin source root via binding.site
  /-- The node is one of a name. -/
  isName : binding.site.kind ∈ ["identifier", "shorthand_property_identifier_pattern"]
  /-- The name is the text of the node. -/
  name : binding.name = source.textOf binding.site
  /-- The root tells the declaration. -/
  declaration : binding.declaration = root.declaration
  /-- It is a parameter exactly if the root is passed to a function. -/
  isParameter : binding.isParameter = true ↔ ∃ function pattern, root = .passed function pattern
  /-- The root tells the function. -/
  owner : binding.owner = root.owner?
  /-- The root tells whether it stands in the head of a loop. -/
  inLoopHeader : binding.inLoopHeader = true ↔ root.IsLoopHeader
  /-- It is in an array pattern exactly if one lies on the way. -/
  inArrayPattern : binding.inArrayPattern = true ↔ ∃ pattern ∈ via, pattern.kind = "array_pattern"
  /-- It is destructured exactly if a pattern of either kind lies on the way. -/
  destructured : binding.destructured = true ↔
    ∃ pattern ∈ via, pattern.kind = "array_pattern" ∨ pattern.kind = "object_pattern"

section

variable {source : Source} {root : Root} {site : Site} {via : List Site} {binding : Binding}

theorem isLoopHeader_iff (distinct : source.tree.Distinct) (listed : root.holder ∈ source.walk) :
    root.inLoopHeader = true ↔ root.IsLoopHeader := by
  cases root with
  | declared declarator pattern => exact isInLoopHeader_iff distinct listed
  | looped statement pattern => exact iff_of_true rfl trivial
  | caught clause pattern => exact iff_of_false Bool.false_ne_true id
  | passed function pattern => exact iff_of_false Bool.false_ne_true id

theorem isSome_owner?_iff (root : Root) :
    root.owner?.isSome = true ↔ ∃ function pattern, root = .passed function pattern := by
  cases root <;> simp [Root.owner?]

theorem boundBy_bind (distinct : source.tree.Distinct) (origin : Origin source root via site)
    (isName : site.kind ∈ nameKinds) :
    BoundBy source root via (root.bind source site
      (via.foldl (fun nesting pattern => nesting.inside pattern.kind) {})) where
  origin := origin
  isName := isName
  name := rfl
  declaration := rfl
  isParameter := isSome_owner?_iff root
  owner := rfl
  inLoopHeader := isLoopHeader_iff distinct origin.listed
  inArrayPattern := by simp [Root.bind, inside_foldl]
  destructured := by simp [Root.bind, inside_foldl]

/-- The root, the way and the name tell the binding. -/
theorem BoundBy.unique {first second : Binding} (bound : BoundBy source root via first)
    (bound' : BoundBy source root via second) (same : first.site = second.site) :
    first = second := by
  have name := bound.name.trans ((congrArg source.textOf same).trans bound'.name.symm)
  have declaration := bound.declaration.trans bound'.declaration.symm
  have owner := bound.owner.trans bound'.owner.symm
  have isParameter := Bool.eq_iff_iff.mpr (bound.isParameter.trans bound'.isParameter.symm)
  have inLoopHeader := Bool.eq_iff_iff.mpr (bound.inLoopHeader.trans bound'.inLoopHeader.symm)
  have inArrayPattern :=
    Bool.eq_iff_iff.mpr (bound.inArrayPattern.trans bound'.inArrayPattern.symm)
  have destructured := Bool.eq_iff_iff.mpr (bound.destructured.trans bound'.destructured.symm)
  cases first
  cases second
  simp_all only

theorem mem_bindings_iff (distinct : source.tree.Distinct) (member : root ∈ roots source) :
    binding ∈ root.bindings source ↔ ∃ via, BoundBy source root via binding := by
  obtain ⟨listed, introduces⟩ := mem_roots_iff.mp member
  rw [Root.bindings, List.mem_map]
  constructor
  · rintro ⟨⟨site, told⟩, found, rfl⟩
    obtain ⟨via, leads, name, rfl⟩ := mem_names_iff.mp found
    exact ⟨via, boundBy_bind distinct ⟨listed, introduces, leads⟩ name⟩
  · rintro ⟨via, bound⟩
    refine ⟨_, mem_names_iff.mpr ⟨via, bound.origin.leads, bound.isName, rfl⟩, ?_⟩
    exact (boundBy_bind distinct bound.origin bound.isName).unique bound rfl

theorem mem_collect_iff (distinct : source.tree.Distinct) :
    binding ∈ collect source ↔ ∃ root via, BoundBy source root via binding := by
  rw [collect_eq, List.mem_flatMap]
  constructor
  · rintro ⟨root, member, found⟩
    exact ⟨root, (mem_bindings_iff distinct member).mp found⟩
  · rintro ⟨root, via, bound⟩
    have member := mem_roots_iff.mpr ⟨bound.origin.listed, bound.origin.introduces⟩
    exact ⟨root, member, (mem_bindings_iff distinct member).mpr ⟨via, bound⟩⟩

theorem mem_collectedSites_iff :
    site ∈ (collect source).map (·.site) ↔
      site.kind ∈ nameKinds ∧ ∃ root via, Origin source root via site := by
  rw [collect_eq, List.map_flatMap, List.mem_flatMap]
  constructor
  · rintro ⟨root, member, found⟩
    obtain ⟨name, via, origin⟩ := (mem_sites_iff member).mp found
    exact ⟨name, root, via, origin⟩
  · rintro ⟨name, root, via, origin⟩
    have member := mem_roots_iff.mpr ⟨origin.listed, origin.introduces⟩
    exact ⟨root, member, (mem_sites_iff member).mpr ⟨name, via, origin⟩⟩

end

/-- The names to which steps lead from a root are collected, each once, and nothing else is.  A name has
one root, one way leads to it from there, and its binding tells the root and the patterns on the way. -/
theorem collect_exact {source : Source} (distinct : source.tree.Distinct)
    (lists : ListsParameters source) :
    ((collect source).map (·.site)).Nodup ∧
    (∀ site, site ∈ (collect source).map (·.site) ↔
      site.kind ∈ ["identifier", "shorthand_property_identifier_pattern"] ∧
        ∃ root via, Origin source root via site) ∧
    (∀ site root via root' via', Origin source root via site → Origin source root' via' site →
      root = root' ∧ via = via') ∧
    (∀ binding, binding ∈ collect source ↔ ∃ root via, BoundBy source root via binding) :=
  ⟨nodup_sites distinct lists, fun _ => mem_collectedSites_iff,
    fun _ _ _ _ _ origin origin' => origin.unique lists origin',
    fun _ => mem_collect_iff distinct⟩

/-- A function in a default: its parameter is a root of its own, inside the pattern of another. -/
def defaultFunction : Source where
  path := "src/a.js"
  grammar := .javascript
  text := "const \x7b a = ([b]) => b \x7d = c;".toList
  tree :=
    .node ⟨0, "program", "", true, ⟨0, 29⟩⟩
      [.node ⟨1, "lexical_declaration", "", true, ⟨0, 29⟩⟩
        [.node ⟨2, "const", "kind", false, ⟨0, 5⟩⟩ [],
          .node ⟨3, "variable_declarator", "", true, ⟨6, 28⟩⟩
            [.node ⟨4, "object_pattern", "name", true, ⟨6, 24⟩⟩
              [.node ⟨5, "\x7b", "", false, ⟨6, 7⟩⟩ [],
                .node ⟨6, "object_assignment_pattern", "", true, ⟨8, 22⟩⟩
                  [.node ⟨7, "shorthand_property_identifier_pattern", "left", true, ⟨8, 9⟩⟩ [],
                    .node ⟨8, "=", "", false, ⟨10, 11⟩⟩ [],
                    .node ⟨9, "arrow_function", "right", true, ⟨12, 22⟩⟩
                      [.node ⟨10, "formal_parameters", "parameters", true, ⟨12, 17⟩⟩
                        [.node ⟨11, "(", "", false, ⟨12, 13⟩⟩ [],
                          .node ⟨12, "array_pattern", "", true, ⟨13, 16⟩⟩
                            [.node ⟨13, "[", "", false, ⟨13, 14⟩⟩ [],
                              .node ⟨14, "identifier", "", true, ⟨14, 15⟩⟩ [],
                              .node ⟨15, "]", "", false, ⟨15, 16⟩⟩ []],
                          .node ⟨16, ")", "", false, ⟨16, 17⟩⟩ []],
                        .node ⟨17, "=>", "", false, ⟨18, 20⟩⟩ [],
                        .node ⟨18, "identifier", "body", true, ⟨21, 22⟩⟩ []]],
                .node ⟨19, "\x7d", "", false, ⟨23, 24⟩⟩ []],
              .node ⟨20, "=", "", false, ⟨25, 26⟩⟩ [],
              .node ⟨21, "identifier", "value", true, ⟨27, 28⟩⟩ []],
          .node ⟨22, ";", "", false, ⟨28, 29⟩⟩ []]]

theorem collect_exact_defaultFunction :
    defaultFunction.tree.Distinct ∧ ListsParameters defaultFunction ∧
      ((collect defaultFunction).map fun binding =>
        (binding.name, binding.isParameter, binding.inArrayPattern, binding.destructured)) =
          [(['a'], false, false, true), (['b'], true, true, true)] ∧
      ((collect defaultFunction).map (·.site)).Nodup := by
  have distinct : defaultFunction.tree.Distinct := by decide +kernel
  have lists : ListsParameters defaultFunction := by decide +kernel
  exact ⟨distinct, lists, by decide +kernel, (collect_exact distinct lists).1⟩

end Binding
end Hazard
