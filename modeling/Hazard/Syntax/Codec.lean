import Hazard.Data.Value
import Hazard.Syntax.Tree

/-!
Syntax trees as data: the list of all nodes in pre-order, each with the position of its parent, its
field, its kind, whether it is named, and its first and last offset.
-/

namespace Hazard.Tree

/-- Reads a node; the root has a negative parent. -/
def entryOfValue? (id : Nat) : Value → Option Entry
  | .list [.int parent, .str field, .str kind, .int named, .int start, .int stop] =>
    some ⟨if parent < 0 then none else some parent.toNat,
      ⟨id, kind, field, named != 0, ⟨start.toNat, stop.toNat⟩⟩⟩
  | _ => none

/-- Reads a tree. -/
def ofValue? : Value → Option Tree
  | .list nodes => do
    let entries ← (nodes.mapIdx entryOfValue?).mapM fun entry => entry
    ofPreorder? entries
  | _ => none

end Hazard.Tree
