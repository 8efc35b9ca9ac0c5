import Hazard.Syntax.Source

/-!
The files that a detector has open. Every opening gets a key of its own, so that closing one file does
not touch another one, not even one of the same path.
-/

namespace Hazard

/-- Open files by key, and the next key. -/
structure Workspace where
  /-- The key that the next file gets. -/
  next : Nat
  /-- The open files with their keys, the one that was opened last in front. -/
  entries : List (Nat × Source)
deriving Repr

namespace Workspace

/-- No open files. -/
def empty : Workspace := ⟨0, []⟩

/-- The number of open files. -/
def size (workspace : Workspace) : Nat := workspace.entries.length

/-- Opens a file: its key, and the workspace with it. -/
def opened (workspace : Workspace) (source : Source) : Nat × Workspace :=
  (workspace.next, ⟨workspace.next + 1, (workspace.next, source) :: workspace.entries⟩)

/-- Closes the file of a key. -/
def closed (workspace : Workspace) (key : Nat) : Workspace :=
  { workspace with entries := workspace.entries.filter fun entry => entry.1 != key }

end Workspace

end Hazard
