import Hazard.Files.Store
import Hazard.Syntax.Codec
import Hazard.Text.Base64
import Hazard.Text.Encoding

/-!
A tree of files together with the syntax trees of the source files in it, as they are told from
outside.
-/

namespace Hazard

/-- Files and their syntax trees. -/
structure Snapshot where
  store : Store
  trees : List (Address × Tree)

namespace Snapshot

/-- Nothing but the folder in which one works and the folder where one is at home. -/
def bare (root : String) (here home : Address) : Snapshot :=
  ⟨(Store.planted ⟨root, here, home, []⟩ here .folder).planted home .folder, []⟩

/-- The syntax tree of the file at an address. -/
def treeOf (snapshot : Snapshot) (address : Address) (_ : List Char) : Option Tree :=
  snapshot.trees.lookup address

/-- What an entry says to be at its place: a folder, octets in sixty-four characters, or a text. -/
def itemOf (entry : Value) : Item :=
  match entry.field? "dir", entry.field? "b64", entry.field? "text" with
  | some (.bool true), _, _ => .folder
  | _, some (.str written), _ => .file ((Text.octets? written.toList).getD [])
  | _, _, some (.str text) => .file (Text.encode text.toList)
  | _, _, _ => .file []

/-- Adds what an entry tells: its path seen from the root, what is there, and its syntax tree. -/
def add (snapshot : Snapshot) (entry : Value) : Snapshot :=
  match entry.field? "path" with
  | some (.str path) =>
    let address := (Path.ofString path).parts
    let others := snapshot.trees.filter fun known => known.1 != address
    ⟨snapshot.store.planted address (itemOf entry),
      match (entry.field? "tree").bind Tree.ofValue? with
      | some tree => (address, tree) :: others
      | none => others⟩
  | _ => snapshot

end Snapshot

end Hazard
