import Hazard.Config.Discovery
import Hazard.Config.Layer
import Hazard.Data.Yaml.Load

/-!
The configuration in force: the standard one, under the one at home, under the one of the project. How
files are read, and how deeply they may be merged, is left open; there is a usual way.
-/

namespace Hazard.Config

/-- How files are read and put together. -/
structure Readers where
  /-- Reads the octets of a file. A list or mapping that holds itself is read as deep as need be. -/
  file : List UInt8 → Except Yaml.ReadError Value
  /-- Reads the octets of a manifest that a search comes to. -/
  manifest : ManifestReader
  /-- How many mergings may go on within one another, if there is a bound. -/
  room : Option Nat

/-- Reads the octets of a file, which is a text in YAML. -/
def readFile (octets : List UInt8) : Except Yaml.ReadError Value :=
  match Text.decode? octets with
  | none => .error .undecodable
  | some text => Yaml.read (Text.uniformLineEnds text)

/-- How files are read and put together, unless something else is said. -/
def Readers.usual : Readers := ⟨readFile, readManifest, none⟩

/-- Why there is no configuration. -/
inductive LoadError where
  /-- A file cannot be reached. -/
  | unreachable (path : String) (cause : FileError)
  /-- A file is malformed. -/
  | malformed (path : String)
  /-- A file holds something other than a mapping. -/
  | notMapping (path : String)
  /-- The mappings put together are no configuration. -/
  | invalid (issues : List Issue)
  /-- The content of a file is not malformed, and yet has no value. -/
  | content (fault : Yaml.ReadError)
  /-- A manifest is something without keys. -/
  | manifestShape (shape : String)
  /-- Mappings are nested too deeply to be merged. -/
  | mergeTooDeep
deriving DecidableEq, Repr

namespace LoadError

/-- The error is told as one of the configuration. -/
def isReported : LoadError → Bool
  | .unreachable _ _ => true
  | .malformed _ => true
  | .notMapping _ => true
  | .invalid _ => true
  | _ => false

/-- The error in words. -/
def message : LoadError → String
  | .unreachable path cause => "Error reading config file at " ++ path ++ ": " ++ cause.message
  | .malformed path => "Error reading config file at " ++ path ++ ": it is malformed"
  | .notMapping path => "Config file at " ++ path ++ " must contain a mapping."
  | .invalid issues => "Invalid configuration: " ++ "; ".intercalate (issues.map Issue.message)
  | .content fault => fault.message
  | .manifestShape shape => "'" ++ shape ++ "' object has no attribute 'get'"
  | .mergeTooDeep => Yaml.ReadError.message .tooDeep

/-- What ends a search ends the loading, too. -/
def ofSearch : SearchError → LoadError
  | .undecodable => .content .undecodable
  | .overlong digits => .content (.integerTooLong digits)
  | .tooDeep => .content .tooDeep

end LoadError

/-- The value says nothing: it is absent, false, zero or empty. -/
def isVoid : Value → Bool
  | .scalar .null => true
  | .scalar (.bool value) => !value
  | .scalar (.int n) => n == 0
  | .scalar (.float x) => x.eqInt 0
  | .scalar (.str text) => text.isEmpty
  | .scalar (.bytes octets) => octets.isEmpty
  | .scalar (.date _) => false
  | .scalar (.instant _) => false
  | .scalar .recurring => false
  | .list items => items.isEmpty
  | .map entries => entries.isEmpty

/-- What a value without keys is called. -/
def shapeName : Value → String
  | .scalar .null => "NoneType"
  | .scalar (.bool _) => "bool"
  | .scalar (.int _) => "int"
  | .scalar (.float _) => "float"
  | .scalar (.str _) => "str"
  | .scalar (.bytes _) => "bytes"
  | .scalar (.date _) => "datetime.date"
  | .scalar (.instant _) => "datetime.datetime"
  | .scalar .recurring => "list"
  | .list _ => "list"
  | .map _ => "dict"

/-- The configuration that a manifest holds. -/
def ofManifest (content : Value) : Except LoadError Value :=
  if isVoid content then .ok .null
  else match content with
    | .map entries => .ok ((Value.find? (.str manifestKey) entries).getD .null)
    | other => .error (.manifestShape (shapeName other))

/-- What becomes of a fault in the content of a file: only a malformed file is told. -/
def LoadError.ofContent (path : Path) : Yaml.ReadError → LoadError
  | .malformed => .malformed path.toString
  | fault => .content fault

/-- The value that a file holds. -/
def contentOf (store : Store) (path : Path) (readers : Readers := .usual) :
    Except LoadError Value :=
  match store.read path with
  | .error cause => .error (.unreachable path.toString cause)
  | .ok octets => (readers.file octets).mapError (.ofContent path)

/-- The mapping that a file holds; an empty file holds an empty one. -/
def loadFile (store : Store) (path : Path) (readers : Readers := .usual) :
    Except LoadError Entries := do
  let content ← contentOf store path readers
  let held ← if path.name == manifestName then ofManifest content else .ok content
  match held with
  | .null => .ok []
  | .map entries => .ok entries
  | _ => .error (.notMapping path.toString)

/-- The names that lead from home to the configuration there. -/
def homeNames : List String := [".codegateway", "config.yaml"]

/-- Lays the mapping of a file over another one. -/
def layFile (store : Store) (base : Entries) (path : Path) (readers : Readers := .usual) :
    Except LoadError Entries := do
  let entries ← loadFile store path readers
  match mergeWithin? readers.room base (normalizeKeys entries) with
  | some merged => pure merged
  | none => .error .mergeTooDeep

/-- The standard configuration under the one at home, which is passed over if it is malformed. -/
def homeLayer (store : Store) (readers : Readers := .usual) :
    Noted (Except LoadError Entries) :=
  let path := store.pathOf (store.home ++ homeNames)
  let base := standard.toEntries
  if store.hasFile path then
    match layFile store base path readers with
    | .ok entries => .plain (.ok entries)
    | .error fault =>
      if fault.isReported then ⟨.ok base, [.globalConfigIgnored path.toString]⟩
      else .plain (.error fault)
  else .plain (.ok base)

/-- The file of the project: the given one, or the nearest from a folder upward. -/
def projectFile (store : Store) (start : Path) (given : Option String)
    (readers : Readers := .usual) : Noted (Except SearchError (Option Path)) :=
  match given with
  | some text =>
    if text.isEmpty then search store start readers.manifest
    else .plain (.ok (some (.ofString text)))
  | none => search store start readers.manifest

/-- The project's layer over the others. -/
def projectLayer (store : Store) (start : Path) (given : Option String) (base : Entries)
    (readers : Readers := .usual) : Noted (Except LoadError Entries) :=
  let found := projectFile store start given readers
  match found.outcome with
  | .error fault => ⟨.error (.ofSearch fault), found.events⟩
  | .ok none => ⟨.ok base, found.events⟩
  | .ok (some path) =>
    ⟨layFile store base path readers, found.events ++ [.configLoaded path.toString]⟩

/-- The entries as a configuration. -/
def resolve (entries : Entries) : Except LoadError Config :=
  match ofEntries entries with
  | .ok config => .ok config
  | .error issues => .error (.invalid issues)

/-- The configuration in force in a folder. -/
def load (store : Store) (start : Path) (given : Option String) (readers : Readers := .usual) :
    Noted (Except LoadError Config) :=
  let lower := homeLayer store readers
  match lower.outcome with
  | .error fault => ⟨.error fault, lower.events⟩
  | .ok base =>
    let upper := projectLayer store start given base readers
    ⟨upper.outcome.bind resolve, lower.events ++ upper.events⟩

/-! ### A first configuration -/

/-- What a new project starts with. -/
def starterText : String :=
  "min_severity: info\nexclude:\n- '**/node_modules/**'\n- '**/dist/**'\n- '**/build/**'\n" ++
    "block_on_critical: true\nblock_on_warning: false\n"

/-- The path of a first configuration in a folder. -/
def starterPath (folder : Path) : Path := folder.join ⟨"", fileNames.take 1⟩

/-- Writes a first configuration into a folder. -/
def writeStarter (store : Store) (folder : Path) : Except FileError Store :=
  store.write (starterPath folder) (Text.encode starterText.toList)

end Hazard.Config
