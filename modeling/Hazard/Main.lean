import Hazard.Command.Run
import Hazard.Data.Json.Reader
import Hazard.Files.Snapshot

/-!
The command line. The files to work on come on standard input, as an object with `root`, `here`,
`home`, `now` and `files`; a source file has its syntax tree with it. Files that a command writes are
written below the root.
-/

namespace Hazard.Main

/-- Everything that a stream has to say. -/
partial def readAll (stream : IO.FS.Stream) (read : String) : IO String := do
  let line ← stream.getLine
  if line.isEmpty then pure read else readAll stream (read ++ line)

/-- A text under a key. -/
def textField (value : Value) (name absent : String) : String :=
  match value.field? name with
  | some (.str text) => text
  | _ => absent

/-- The snapshot that an object tells. -/
def snapshotOf (told : Value) : Snapshot :=
  let here := (Path.ofString (textField told "here" "")).parts
  let home := (Path.ofString (textField told "home" "")).parts
  let bare := Snapshot.bare (textField told "root" "/") here home
  match told.field? "files" with
  | some (.list entries) => entries.foldl Snapshot.add bare
  | _ => bare

/-- Stamps with marks that follow from a number. -/
def stampsFrom (seed : Nat) (time : Timestamp) (index : Nat) : Stamp :=
  ⟨String.ofList (Text.hexDigits 8 ((seed + 0x9e3779b1 * index) % 0x100000000)), time⟩

/-- Writes the files that differ from those of an earlier store. -/
def saveChanges (earlier later : Store) : IO Unit := do
  for (address, item) in later.items do
    match item with
    | .folder => IO.FS.createDirAll (later.pathOf address).toString
    | .file _ => pure ()
  for (address, item) in later.items do
    match item with
    | .file octets =>
      if earlier.item? address != some item then
        IO.FS.writeBinFile (later.pathOf address).toString ⟨octets.toArray⟩
    | .folder => pure ()

/-- Runs the program on what standard input tells. -/
def runOnInput (arguments : List String) : IO UInt32 := do
  let text ← readAll (← IO.getStdin) ""
  let told := (Json.parse? text.toList).getD .null
  let snapshot := snapshotOf told
  let seed ← IO.rand 0 0xffffffff
  let now := Timestamp.ofText? (textField told "now" "").toList
  let time := now.getD ⟨1970, 1, 1, 0, 0, 0, 0, some 0⟩
  let outcome := Command.run ⟨snapshot.store, snapshot.treeOf, stampsFrom seed time, 80⟩ arguments
  IO.print outcome.output
  IO.eprint outcome.errors
  saveChanges snapshot.store outcome.store
  pure outcome.exitCode.toUInt32

end Hazard.Main

/-- The program. -/
def main (arguments : List String) : IO UInt32 := Hazard.Main.runOnInput arguments
