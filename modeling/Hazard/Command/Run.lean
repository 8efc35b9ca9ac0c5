import Hazard.Command.Analyze
import Hazard.Command.Init

/-!
The program as a whole: its own switches, and the choice of a command.
-/

namespace Hazard.Command

/-- What can be asked of the program itself. -/
inductive Choice where
  | verbose
  | jsonLogs
  | version
  | help
deriving DecidableEq, Repr

/-- The switches of the program itself. -/
def switches : List (Switch Choice) :=
  [⟨.verbose, ["--verbose", "-v"], false⟩, ⟨.jsonLogs, ["--json-logs"], false⟩,
    ⟨.version, ["--version"], false⟩, ⟨.help, ["-h", "--help"], false⟩]

/-- What goes after the name of the program. -/
def form : String := "[OPTIONS] COMMAND [ARGS]..."

/-- The names of the commands. -/
def commandNames : List String := ["analyze", "init"]

/-- The line about the version. -/
def versionLine : String := programName ++ ", version " ++ Report.toolVersion ++ "\n"

/-- How a command is used. -/
def usageLine (path form : String) : String := "Usage: " ++ path ++ " " ++ form ++ "\n"

/-- Ends with an error of use. -/
def misused (store : Store) (path form : String) (error : UsageError) : Outcome :=
  ((Outcome.start store).warn (error.report path form)).exit 2

/-- Runs a command with its arguments. -/
def runCommand (surroundings : Surroundings) (name : String) (arguments : List String) : Outcome :=
  let store := surroundings.store
  let path := programName ++ " " ++ name
  if name == "analyze" then
    match Analyze.Request.read store arguments with
    | .error error => misused store path Analyze.form error
    | .ok none => (Outcome.start store).say (usageLine path Analyze.form)
    | .ok (some request) => Analyze.perform surroundings request
  else if name == "init" then
    match Init.Request.read store arguments with
    | .error error => misused store path Init.form error
    | .ok none => (Outcome.start store).say (usageLine path Init.form)
    | .ok (some request) => Init.perform store request
  else misused store programName form
    (.unknownCommand name (Text.closeWords commandNames name))

/-- Runs the program with its arguments. -/
def run (surroundings : Surroundings) (arguments : List String) : Outcome :=
  let store := surroundings.store
  if arguments.isEmpty then
    ((Outcome.start store).warn (usageLine programName form)).exit 2
  else
    match readArguments switches false arguments with
    | .error error => misused store programName form error
    | .ok found =>
      match found.uses.find? fun use => use.1 == .version || use.1 == .help with
      | some (.version, _) => (Outcome.start store).say versionLine
      | some _ => (Outcome.start store).say (usageLine programName form)
      | none =>
        match found.others with
        | [] => misused store programName form .missingCommand
        | name :: rest => runCommand surroundings name rest

end Hazard.Command
