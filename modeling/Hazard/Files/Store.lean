import Hazard.Files.Path

/-!
A tree of files as a value. An address is the list of names from the root down; every folder above a
file is there. Paths are seen from the working directory, and double dots climb only where there is a
folder to climb from.
-/

namespace Hazard

/-- Names from the root down. -/
abbrev Address := List String

/-- What stands at an address. -/
inductive Item where
  | folder
  | file (octets : List UInt8)
deriving DecidableEq, Repr

/-- Why a file cannot be reached. -/
inductive FileError where
  | notFound
  | notFolder
  | isFolder
  | exists
deriving DecidableEq, Repr

/-- The error in words. -/
def FileError.message : FileError → String
  | .notFound => "there is no such file or folder"
  | .notFolder => "the path leads through a file"
  | .isFolder => "it is a folder"
  | .exists => "there is a file already"

/-- A tree of files, with the folder in which one works and the folder where one is at home. -/
structure Store where
  /-- How the root is written. -/
  root : String
  /-- The folder in which one works. -/
  here : Address
  /-- The folder where one is at home. -/
  home : Address
  /-- Files and folders by their addresses. -/
  items : List (Address × Item)
deriving Repr

namespace Store

/-- What stands at an address; the root is a folder. -/
def item? (store : Store) (address : Address) : Option Item :=
  if address.isEmpty then some .folder else store.items.lookup address

/-- The path of an address. -/
def pathOf (store : Store) (address : Address) : Path := ⟨store.root, address⟩

/-- The address that names lead to from another one. What they lead through must be folders; there
need not be anything at the end. -/
def follow (store : Store) (address : Address) : List String → Except FileError Address
  | [] => .ok address
  | name :: rest =>
    match store.item? address with
    | none => .error .notFound
    | some (.file _) => .error .notFolder
    | some .folder =>
      if name == ".." then store.follow address.dropLast rest
      else if name == "." || name.isEmpty then store.follow address rest
      else store.follow (address ++ [name]) rest

/-- Where a path starts. -/
def origin (store : Store) (path : Path) : Except FileError Address :=
  if !path.isAbsolute then .ok store.here
  else if path.root == store.root then .ok []
  else .error .notFound

/-- The address of a path. -/
def locate (store : Store) (path : Path) : Except FileError Address := do
  let start ← store.origin path
  store.follow start path.parts

/-- What a path leads to. -/
def find? (store : Store) (path : Path) : Option Item :=
  match store.locate path with
  | .ok address => store.item? address
  | .error _ => none

/-- What a path leads to, as it is written: nothing is below a file, not even the file itself. -/
def findText? (store : Store) (text : String) : Option Item :=
  if text.isEmpty then none
  else
    let names := (Text.splitOn '/' text.toList).map String.ofList
    match (store.origin (Path.ofString text)).bind fun start => store.follow start names with
    | .ok address => store.item? address
    | .error _ => none

/-- There is something at the path. -/
def has (store : Store) (path : Path) : Bool := (store.find? path).isSome

/-- There is a file at the path. -/
def hasFile (store : Store) (path : Path) : Bool :=
  match store.find? path with
  | some (.file _) => true
  | _ => false

/-- The address of a path by its names alone, whether its folders are there or not. -/
def resolve (store : Store) (path : Path) : Address :=
  let climb (address : Address) (name : String) : Address :=
    if name == ".." then address.dropLast else address ++ [name]
  path.parts.foldl climb (if path.isAbsolute then [] else store.here)

/-- The content of a file. -/
def read (store : Store) (path : Path) : Except FileError (List UInt8) := do
  let address ← store.locate path
  match store.item? address with
  | some (.file octets) => .ok octets
  | some .folder => .error .isFolder
  | none => .error .notFound

/-- Sets what stands at an address. -/
def put (store : Store) (address : Address) (item : Item) : Store :=
  { store with items := (address, item) :: store.items.filter fun entry => entry.1 != address }

/-- Sets what stands at an address and makes the folders above it. -/
def planted (store : Store) (address : Address) (item : Item) : Store :=
  let above := (List.range address.length).map fun count => address.take count
  let grown := above.foldl (fun known folder =>
    if (known.item? folder).isNone then known.put folder .folder else known) store
  grown.put address item

/-- Writes a file into a folder that is there. -/
def write (store : Store) (path : Path) (octets : List UInt8) : Except FileError Store := do
  let address ← store.locate path
  match store.item? address.dropLast, store.item? address with
  | _, some .folder => .error .isFolder
  | none, _ => .error .notFound
  | some (.file _), _ => .error .notFolder
  | some .folder, _ => .ok (store.put address (.file octets))

/-- Makes a folder where there is none. -/
def makeFolder (store : Store) (path : Path) : Except FileError Store := do
  let address ← store.locate path
  match store.item? address with
  | some .folder => .ok store
  | some (.file _) => .error .exists
  | none => .ok (store.put address .folder)

/-- Makes a folder and every folder that leads to it. -/
def makeFolders (store : Store) (path : Path) : Except FileError Store :=
  (List.range (path.parts.length + 1)).foldlM (fun made count =>
    made.makeFolder { path with parts := path.parts.take count }) store

/-- The first list of names comes before the second or is the same, name by name. -/
def precedes : List String → List String → Bool
  | [], _ => true
  | _ :: _, [] => false
  | a :: s, b :: t => decide (a < b) || (a == b && precedes s t)

/-- The files below an address, as the names that lead to them from there, in order. -/
def filesBelow (store : Store) (address : Address) : List (List String) :=
  let below := store.items.filterMap fun (place, item) =>
    match item with
    | .file _ =>
      if address.isPrefixOf place && address.length < place.length then
        some (place.drop address.length)
      else none
    | .folder => none
  below.mergeSort precedes

end Store

end Hazard
