import Hazard.Data.Json.Load
import Hazard.Event
import Hazard.Files.Store
import Hazard.Text.Encoding

/-!
Where the configuration of a project is: the nearest folder, from a start upward, that has a file with
one of the usual names, or a manifest that holds a configuration.
-/

namespace Hazard.Config

/-- The usual names, the preferred one first. -/
def fileNames : List String :=
  ["codegateway.yaml", ".codegateway.yaml", "codegateway.config.json", ".codegaterc.json",
    ".codegaterc"]

/-- The name of a manifest. -/
def manifestName : String := "package.json"

/-- The key under which a manifest holds a configuration. -/
def manifestKey : String := "codegateway"

/-- What ends a search early: a manifest that cannot be read and is not known to be malformed. -/
inductive SearchError where
  /-- It is no text. -/
  | undecodable
  /-- It has an integer of so many digits, which are too many. -/
  | overlong (digits : Nat)
  /-- Its lists and mappings are nested too deeply. -/
  | tooDeep
deriving DecidableEq, Repr

/-- What reading a manifest ends with. -/
inductive ManifestContent where
  | value (value : Value)
  /-- It is malformed. -/
  | malformed
  /-- It cannot be read. -/
  | unreadable (fault : SearchError)
deriving Repr

/-- Reads the octets of a manifest. -/
abbrev ManifestReader := List UInt8 → ManifestContent

/-- How many lists and mappings of a manifest may be nested in one another. The last few of them depend
on what else is going on. -/
def manifestRoom : Nat := 980

/-- Reads the octets of a manifest, which is a text in JSON. -/
def readManifest : ManifestReader := fun octets =>
  match Text.decode? octets with
  | none => .unreadable .undecodable
  | some text =>
    match Json.load (Text.uniformLineEnds text) (some manifestRoom) with
    | .ok value => .value value
    | .error .malformed => .malformed
    | .error (.overlong digits) => .unreadable (.overlong digits)
    | .error .tooDeep => .unreadable .tooDeep

/-- What a manifest says. -/
inductive Manifest where
  /-- There is none, or it holds no configuration. -/
  | silent
  /-- It holds a configuration. -/
  | speaks
  /-- It is malformed. -/
  | malformed
  /-- It cannot be read. -/
  | unreadable (fault : SearchError)
deriving DecidableEq, Repr

/-- What the content of a manifest says. -/
def Manifest.ofContent : ManifestContent → Manifest
  | .value value => if (value.field? manifestKey).isSome then .speaks else .silent
  | .malformed => .malformed
  | .unreadable fault => .unreadable fault

/-- What the manifest of a folder says. -/
def manifestOf (store : Store) (folder : Address) (reader : ManifestReader := readManifest) :
    Manifest :=
  match store.item? (folder ++ [manifestName]) with
  | some (.file octets) => .ofContent (reader octets)
  | _ => .silent

/-- A folder has a file of the name. -/
def hasFileAt (store : Store) (folder : Address) (name : String) : Bool :=
  match store.item? (folder ++ [name]) with
  | some (.file _) => true
  | _ => false

/-- A folder and those above it, the nearest first. -/
def upward (folder : Address) : List Address :=
  (List.range (folder.length + 1)).map fun count => folder.take (folder.length - count)

/-- The first configuration in folders. -/
def searchIn (store : Store) (reader : ManifestReader := readManifest) :
    List Address → Noted (Except SearchError (Option Path))
  | [] => .plain (.ok none)
  | folder :: rest =>
    match fileNames.find? (hasFileAt store folder) with
    | some name => .plain (.ok (some (store.pathOf (folder ++ [name]))))
    | none =>
      let manifest := store.pathOf (folder ++ [manifestName])
      match manifestOf store folder reader with
      | .silent => searchIn store reader rest
      | .speaks => .plain (.ok (some manifest))
      | .malformed => (searchIn store reader rest).after [.manifestUnreadable manifest.toString]
      | .unreadable fault => .plain (.error fault)

/-- The nearest configuration from a folder upward. -/
def search (store : Store) (start : Path) (reader : ManifestReader := readManifest) :
    Noted (Except SearchError (Option Path)) :=
  searchIn store reader (upward (store.resolve start))

end Hazard.Config
