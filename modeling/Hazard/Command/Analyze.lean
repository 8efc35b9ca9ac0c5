import Hazard.Command.Outcome
import Hazard.Command.Usage
import Hazard.Detect.Standard
import Hazard.Report.Format

/-!
The command that analyzes files and folders and reports what it finds.
-/

namespace Hazard.Command.Analyze

/-- What can be asked for. -/
inductive Choice where
  | severity
  | format
  | output
  | failOn
  | config
  | help
deriving DecidableEq, Repr

/-- The switches. -/
def switches : List (Switch Choice) :=
  [⟨.severity, ["--severity", "-s"], true⟩, ⟨.format, ["--format", "-f"], true⟩,
    ⟨.output, ["--output", "-o"], true⟩, ⟨.failOn, ["--fail-on"], true⟩,
    ⟨.config, ["--config", "-c"], true⟩, ⟨.help, ["-h", "--help"], false⟩]

/-- The names of a switch. -/
def namesOf (choice : Choice) : List String :=
  ((switches.find? fun switch => switch.meaning == choice).map (·.names)).getD []

/-- What goes after the name of the command. -/
def form : String := "[OPTIONS] [PATHS]..."

/-- What is asked for. -/
structure Request where
  /-- The files and folders to look at. -/
  paths : List String
  /-- The least severity to report. -/
  severity : Option Severity
  /-- How the findings are written. -/
  format : Report.Format
  /-- The file to write to; none asks for the console. -/
  output : Option String
  /-- The severity from which on the command fails. -/
  failOn : Option Severity
  /-- The configuration file; none asks for a search. -/
  config : Option String
deriving DecidableEq, Repr

/-- What is asked for if nothing is said. -/
def standardRequest : Request := ⟨[], none, .console, none, none, none⟩

/-- The severity of a word. -/
def severityFor (choice : Choice) (word : String) : Except UsageError Severity :=
  match Severity.ofName? word with
  | some severity => .ok severity
  | none => .error (.invalidValue (namesOf choice) (notAmong (Severity.all.map (·.name)) word))

/-- The format of a word. -/
def formatFor (word : String) : Except UsageError Report.Format :=
  match Report.Format.ofName? word with
  | some format => .ok format
  | none =>
    .error (.invalidValue (namesOf .format) (notAmong (Report.Format.all.map (·.name)) word))

/-- The file of a configuration, which must be there. -/
def checkConfig (store : Store) (text : String) : Except UsageError String :=
  match store.findText? text with
  | some (.file _) => .ok text
  | some .folder =>
    .error (.invalidValue (namesOf .config) ("File " ++ Text.quotedString text ++
      " is a directory."))
  | none =>
    .error (.invalidValue (namesOf .config) ("File " ++ Text.quotedString text ++
      " does not exist."))

/-- A path to analyze, which must lead to something. -/
def checkPath (store : Store) (text : String) : Except UsageError String :=
  match store.findText? text with
  | some _ => .ok text
  | none =>
    .error (.invalidValue ["[PATHS]..."] ("Path " ++ Text.quotedString text ++ " does not exist."))

/-- The request with one more wish. -/
def Request.with (store : Store) (request : Request) (choice : Choice) (value : String) :
    Except UsageError Request :=
  match choice with
  | .severity => (severityFor choice value).map fun severity =>
      { request with severity := some severity }
  | .format => (formatFor value).map fun format => { request with format := format }
  | .output => .ok { request with output := some value }
  | .failOn => (severityFor choice value).map fun severity =>
      { request with failOn := some severity }
  | .config => (checkConfig store value).map fun path => { request with config := some path }
  | .help => .ok request

/-- Reads what is asked for; `none` is a call for help. -/
def Request.read (store : Store) (arguments : List String) :
    Except UsageError (Option Request) := do
  let found ← readArguments switches true arguments
  if found.uses.any fun use => use.1 == .help then pure none
  else
    let request ← (settled found.uses).foldlM (fun request (choice, value) =>
      request.with store choice (value.getD "")) standardRequest
    let paths ← found.others.mapM (checkPath store)
    pure (some { request with paths := if paths.isEmpty then ["."] else paths })

/-- A file as it is analyzed: malformed octets are left out, and line ends are uniform. -/
def documentAt (surroundings : Surroundings) (path : Path) : Except FileError Document := do
  let address ← surroundings.store.locate path
  let octets ← surroundings.store.read path
  let text := Text.uniformLineEnds (Text.decodeSome octets)
  pure ⟨path.toString, text, surroundings.treeOf address text⟩

/-- What a format is called when its report is saved. -/
def savedName : Report.Format → String
  | .console => "Console"
  | .json => "JSON"
  | .sarif => "SARIF"

/-- Saves a report, which then has no line end after it. -/
def save (outcome : Outcome) (format : Report.Format) (target report : String) : Outcome :=
  let content := Text.encode report.toList.dropLast
  let written :=
    if target.toList.getLast? == some '/' then .error .isFolder
    else outcome.store.write (.ofString target) content
  match written with
  | .error fault => outcome.crashed (.file fault)
  | .ok store =>
    { outcome with store := store }.warn
      (savedName format ++ " report saved to " ++ target ++ "\n")

/-- Reports results, on the console or to a file. -/
def deliver (surroundings : Surroundings) (request : Request) (results : List Result)
    (outcome : Outcome) : Outcome :=
  match request.format.write surroundings.width results with
  | none => outcome.crashed .unshowable
  | some report =>
    match request.format, request.output with
    | .console, _ => outcome.say report
    | format, some target =>
      if target.isEmpty then outcome.say report else save outcome format target report
    | _, none => outcome.say report

/-- The code at the end: one if there is a finding that must not be. -/
def verdict (request : Request) (results : List Result) (outcome : Outcome) : Outcome :=
  if outcome.crash.isNone && request.failOn.any (Result.fails results) then outcome.exit 1
  else outcome

/-- Analyzes the files and reports. -/
def examine (surroundings : Surroundings) (request : Request) (config : Config)
    (files : List Path) (outcome : Outcome) : Outcome :=
  match files.mapM (documentAt surroundings) with
  | .error fault => outcome.crashed (.file fault)
  | .ok documents =>
    let analyzer := Analyzer.ofDetectors config (Detector.standard surroundings.stamps)
    let options := { minSeverity := request.severity.map (·.name) : AnalysisOptions }
    let noted := (analyzer.analyzeFiles options documents).2
    let after := outcome.note noted.events
    match noted.outcome with
    | .error fault => after.crashed (.analysis fault)
    | .ok results => verdict request results (deliver surroundings request results after)

/-- Lists the files and goes on if there are any. -/
def collect (surroundings : Surroundings) (request : Request) (config : Config)
    (outcome : Outcome) : Outcome :=
  match Scan.sources outcome.store config.exclude (request.paths.map .ofString) with
  | .error fault => outcome.crashed (.scan fault)
  | .ok [] => outcome.say "No files found to analyze\n"
  | .ok files =>
    let announced :=
      if request.format == .console then
        outcome.warn ("Analyzing " ++ toString files.length ++ " file(s)...\n")
      else outcome
    examine surroundings request config files announced

/-- Tells which configuration is used. -/
def announceConfig (request : Request) (path : Option String) (outcome : Outcome) : Outcome :=
  match path with
  | some text =>
    if request.format == .console then outcome.warn ("Using config: " ++ text ++ "\n") else outcome
  | none => outcome

/-- Does what is asked for. -/
def perform (surroundings : Surroundings) (request : Request) : Outcome :=
  let store := surroundings.store
  let loaded := Config.load store .here request.config
  let outcome := (Outcome.start store).note loaded.events
  match loaded.outcome with
  | .error fault =>
    if fault.isReported then outcome.fail fault.message else outcome.crashed (.load fault)
  | .ok config =>
    match request.config with
    | some text => collect surroundings request config (announceConfig request (some text) outcome)
    | none =>
      let found := Config.search store .here
      let searched := outcome.note found.events
      match found.outcome with
      | .error fault => searched.crashed (.load (.ofSearch fault))
      | .ok path =>
        collect surroundings request config
          (announceConfig request (path.map Path.toString) searched)

end Hazard.Command.Analyze
