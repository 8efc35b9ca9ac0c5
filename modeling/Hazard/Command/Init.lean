import Hazard.Command.Outcome
import Hazard.Command.Usage

/-!
The command that writes a first configuration.
-/

namespace Hazard.Command.Init

/-- What can be asked for. -/
inductive Choice where
  | directory
  | force
  | help
deriving DecidableEq, Repr

/-- The switches. -/
def switches : List (Switch Choice) :=
  [⟨.directory, ["--directory", "-d"], true⟩, ⟨.force, ["--force"], false⟩,
    ⟨.help, ["-h", "--help"], false⟩]

/-- What goes after the name of the command. -/
def form : String := "[OPTIONS]"

/-- What is asked for. -/
structure Request where
  directory : String
  force : Bool
deriving DecidableEq, Repr

/-- A folder to write into, which may be missing but is not a file. -/
def checkDirectory (store : Store) (text : String) : Except UsageError String :=
  match store.findText? text with
  | some (.file _) =>
    .error (.invalidValue ["--directory", "-d"]
      ("Directory " ++ Text.quotedString text ++ " is a file."))
  | _ => .ok text

/-- The request with one more wish. -/
def Request.with (store : Store) (request : Request) (choice : Choice) (value : String) :
    Except UsageError Request :=
  match choice with
  | .directory => (checkDirectory store value).map fun text => { request with directory := text }
  | .force => .ok { request with force := true }
  | .help => .ok request

/-- Reads what is asked for; `none` is a call for help. -/
def Request.read (store : Store) (arguments : List String) :
    Except UsageError (Option Request) := do
  let found ← readArguments switches true arguments
  if found.uses.any fun use => use.1 == .help then pure none
  else
    let request ← (settled found.uses).foldlM (fun request (choice, value) =>
      request.with store choice (value.getD "")) ⟨".", false⟩
    if found.others.isEmpty then pure (some request) else .error (.extraArguments found.others)

/-- Does what is asked for. -/
def perform (store : Store) (request : Request) : Outcome :=
  let folder := Path.ofString request.directory
  let target := Config.starterPath folder
  let outcome := Outcome.start store
  if store.has target && !request.force then
    outcome.fail (target.toString ++ " already exists. Use --force to overwrite it.")
  else
    match (store.makeFolders folder).bind fun made => Config.writeStarter made folder with
    | .error fault => outcome.crashed (.file fault)
    | .ok written => { outcome with store := written }.say ("Created " ++ target.toString ++ "\n")

end Hazard.Command.Init
