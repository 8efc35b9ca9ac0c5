import Hazard.Detect.Binding
import Hazard.Proofs.Text.Places

/-!
# Trees whose spans are nested

In a tree of a text every node covers its children.  What one reaches from such a tree, by walking
it, by going to a child or by looking for the names in a pattern, is again such a tree inside the
place where one started, so its lines lie among the lines of that place.
-/

namespace Hazard

/-- One stretch lies in the other. -/
structure Span.Inside (inner outer : Span) : Prop where
  start : outer.start ≤ inner.start
  stop : inner.stop ≤ outer.stop

theorem Span.inside_iff {inner outer : Span} :
    inner.Inside outer ↔ outer.start ≤ inner.start ∧ inner.stop ≤ outer.stop :=
  ⟨fun inside => ⟨inside.start, inside.stop⟩, fun both => ⟨both.1, both.2⟩⟩

namespace Span.Inside

theorem refl (span : Span) : span.Inside span := ⟨Nat.le_refl _, Nat.le_refl _⟩

theorem trans {inner middle outer : Span} (first : inner.Inside middle)
    (second : middle.Inside outer) : inner.Inside outer :=
  ⟨Nat.le_trans second.start first.start, Nat.le_trans first.stop second.stop⟩

end Span.Inside

/-- The stretch of every node runs forward and holds the stretches of the node's children. -/
inductive Tree.Nested : Tree → Prop
  | node {label : Label} {children : List Tree} (forward : label.span.start ≤ label.span.stop)
      (inside : ∀ child ∈ children, child.span.Inside label.span)
      (below : ∀ child ∈ children, child.Nested) : Nested (.node label children)

namespace Tree.Nested

theorem node_iff {label : Label} {children : List Tree} :
    (Tree.node label children).Nested ↔ label.span.start ≤ label.span.stop ∧
      ∀ child ∈ children, child.span.Inside label.span ∧ child.Nested := by
  constructor
  · rintro ⟨forward, inside, below⟩
    exact ⟨forward, fun child mem => ⟨inside child mem, below child mem⟩⟩
  · rintro ⟨forward, both⟩
    exact .node forward (fun child mem => (both child mem).1) fun child mem => (both child mem).2

theorem forward {tree : Tree} (nested : tree.Nested) : tree.span.start ≤ tree.span.stop := by
  cases nested with
  | node forward _ _ => exact forward

theorem inside {tree child : Tree} (nested : tree.Nested) (mem : child ∈ tree.children) :
    child.span.Inside tree.span := by
  cases nested with
  | node _ inside _ => exact inside child mem

theorem child {tree child : Tree} (nested : tree.Nested) (mem : child ∈ tree.children) :
    child.Nested := by
  cases nested with
  | node _ _ below => exact below child mem

end Tree.Nested

/-- The node roots a nested tree that lies in a stretch. -/
structure Site.Within (site : Site) (outer : Span) : Prop where
  nested : site.tree.Nested
  inside : site.span.Inside outer

namespace Site

theorem Within.trans {site : Site} {middle outer : Span} (within : site.Within middle)
    (inside : middle.Inside outer) : site.Within outer :=
  ⟨within.nested, within.inside.trans inside⟩

theorem Within.self {site : Site} (nested : site.tree.Nested) : site.Within site.span :=
  ⟨nested, .refl _⟩

theorem within_of_child {site : Site} {tree : Tree} (nested : site.tree.Nested)
    (mem : tree ∈ site.tree.children) : (site.under tree).Within site.span :=
  ⟨nested.child mem, nested.inside mem⟩

theorem within_of_mem_children {site child : Site} (nested : site.tree.Nested)
    (mem : child ∈ site.children) : child.Within site.span := by
  obtain ⟨tree, member, rfl⟩ := List.mem_map.mp mem
  exact within_of_child nested member

theorem within_of_mem_namedChildren {site child : Site} (nested : site.tree.Nested)
    (mem : child ∈ site.namedChildren) : child.Within site.span := by
  obtain ⟨tree, member, rfl⟩ := List.mem_map.mp mem
  exact within_of_child nested (List.mem_of_mem_filter member)

theorem within_of_child? {site child : Site} {field : String} (nested : site.tree.Nested)
    (found : site.child? field = some child) : child.Within site.span := by
  obtain ⟨tree, held, rfl⟩ := Option.map_eq_some_iff.mp found
  exact within_of_child nested (List.mem_of_find?_eq_some held)

mutual

theorem nested_of_mem_walkTree {above : List Tree} {site : Site} :
    ∀ {tree : Tree}, tree.Nested → site ∈ walkTree above tree → site.tree.Nested
  | .node label children, nested, mem => by
      rw [walkTree, List.mem_cons] at mem
      rcases mem with rfl | mem
      · exact nested
      · exact nested_of_mem_walkForest (fun _ member => nested.child member) mem

theorem nested_of_mem_walkForest {above : List Tree} {site : Site} :
    ∀ {trees : List Tree}, (∀ tree ∈ trees, tree.Nested) → site ∈ walkForest above trees →
      site.tree.Nested
  | [], _, mem => by
      rw [walkForest] at mem
      exact absurd mem List.not_mem_nil
  | tree :: trees, nested, mem => by
      rw [walkForest, List.mem_append] at mem
      rw [List.forall_mem_cons] at nested
      rcases mem with mem | mem
      · exact nested_of_mem_walkTree nested.1 mem
      · exact nested_of_mem_walkForest nested.2 mem

end

end Site

/-! ## Names in patterns -/

namespace Binding

mutual

theorem within_of_mem_namesIn {above : List Tree} {nesting : Nesting} {found : Site × Nesting} :
    ∀ {tree : Tree}, tree.Nested → found ∈ namesIn above nesting tree →
      found.1.Within tree.span
  | .node label children, nested, mem => by
      rw [namesIn] at mem
      split at mem
      · obtain rfl := List.mem_singleton.mp mem
        exact .self nested
      · have below : ∀ child ∈ children, child.Nested ∧ child.span.Inside label.span :=
          fun child mem => ⟨nested.child mem, nested.inside mem⟩
        split at mem
        · exact absurd mem List.not_mem_nil
        · exact within_of_mem_namesInField below mem
        · exact within_of_mem_namesInMembers below mem

theorem within_of_mem_namesInField {field : String} {above : List Tree} {nesting : Nesting}
    {found : Site × Nesting} {outer : Span} :
    ∀ {trees : List Tree}, (∀ tree ∈ trees, tree.Nested ∧ tree.span.Inside outer) →
      found ∈ namesInField field above nesting trees → found.1.Within outer
  | [], _, mem => by
      rw [namesInField] at mem
      exact absurd mem List.not_mem_nil
  | tree :: trees, nested, mem => by
      rw [namesInField] at mem
      rw [List.forall_mem_cons] at nested
      split at mem
      · exact (within_of_mem_namesIn nested.1.1 mem).trans nested.1.2
      · exact within_of_mem_namesInField nested.2 mem

theorem within_of_mem_namesInMembers {above : List Tree} {nesting : Nesting}
    {found : Site × Nesting} {outer : Span} :
    ∀ {trees : List Tree}, (∀ tree ∈ trees, tree.Nested ∧ tree.span.Inside outer) →
      found ∈ namesInMembers above nesting trees → found.1.Within outer
  | [], _, mem => by
      rw [namesInMembers] at mem
      exact absurd mem List.not_mem_nil
  | tree :: trees, nested, mem => by
      rw [namesInMembers, List.mem_append] at mem
      rw [List.forall_mem_cons] at nested
      rcases mem with mem | mem
      · split at mem
        · exact (within_of_mem_namesIn nested.1.1 mem).trans nested.1.2
        · exact absurd mem List.not_mem_nil
      · exact within_of_mem_namesInMembers nested.2 mem

end

end Binding

end Hazard
