import Hazard.Analysis.Result
import Hazard.Analysis.Workspace
import Hazard.Config.Layer
import Hazard.Detect.Basic
import Hazard.Event
import Hazard.Files.Exclude

/-!
The analysis of a file: which detectors look at it, and what becomes of their findings. A detector that
fails is noted and adds nothing. Findings are filtered by the severity that their detector gave them,
then get the severity that the configuration gives their kind, and are listed most severe first.
-/

namespace Hazard

/-- Why there is no result. -/
inductive AnalysisError where
  /-- The configuration of the call cannot be read. -/
  | config (issues : List Issue)
  /-- A pattern of files to leave out cannot be read. -/
  | glob (fault : Exclude.GlobError)
  /-- A pattern of secrets cannot be read, for another reason than its form. -/
  | pattern (fault : Regex.ParseError)
  /-- There is no severity of the name. -/
  | unknownSeverity (name : String)
  /-- A detector left by a signal that no handler of errors sees. -/
  | interrupted (name : String)
  /-- The answer of a detector cannot be handed over, so that the call waits for it forever. -/
  | stalled
deriving DecidableEq, Repr

/-- The complaint about a name that is no severity. -/
def Severity.unknownMessage (name : String) : String :=
  Text.quotedString name ++ " is not a valid Severity"

/-- A detector and the files that it has open. -/
structure Station where
  /-- The detector. -/
  detector : Detector
  /-- The files that it has open. -/
  workspace : Workspace

namespace Station

/-- The station of a detector that has nothing open. -/
def idle (detector : Detector) : Station := ⟨detector, .empty⟩

/-- Lets the detector examine a document, which is open meanwhile if there is a grammar for it. -/
def run (station : Station) (vocabulary : Vocabulary) (document : Document) :
    Station × Except Failure (List Record) :=
  match Source.ofDocument? document with
  | some source =>
    let (key, during) := station.workspace.opened source
    let outcome := station.detector.examine vocabulary (.ok source)
    ({ station with workspace := during.closed key }, outcome)
  | none => (station, station.detector.examine vocabulary (.error (.noGrammar document.path)))

end Station

/-- What one call asks for. -/
structure AnalysisOptions where
  /-- What is laid over the configuration for this call. -/
  override : Option Config.Override := none
  /-- The kinds to look for; none asks for those that the configuration enables. -/
  kinds : Option (List Kind) := none
  /-- The name of the least severity to report; none leaves it to the configuration. -/
  minSeverity : Option String := none

/-- Detectors and the configuration in force. -/
structure Analyzer where
  /-- The configuration of calls that lay nothing over it. -/
  config : Config
  /-- The detectors, in the order in which they are asked. -/
  stations : List Station

namespace Analyzer

/-- An analyzer whose detectors have nothing open. -/
def ofDetectors (config : Config) (detectors : List Detector) : Analyzer :=
  ⟨config, detectors.map .idle⟩

/-- Changes the configuration in force; a change that cannot be read changes nothing. -/
def updateConfig (analyzer : Analyzer) (changes : Entries) : Checked Analyzer :=
  (analyzer.config.change changes).map fun config => { analyzer with config := config }

/-- The detector knows the language, and one of its kinds is asked for and enabled. -/
def isApplicable (language : Option String) (requested : Option (List Kind)) (enabled : List Kind)
    (detector : Detector) : Bool :=
  language.any detector.languages.contains &&
    detector.kinds.any fun kind =>
      (match requested with
        | some kinds => kinds.contains kind
        | none => true) && enabled.contains kind

/-- The records of an outcome; a failure has none. -/
def recordsOf : Except Failure (List Record) → List Record
  | .ok records => records
  | .error _ => []

/-- The notes on an outcome; only an error has one. -/
def eventsOf (detector : Detector) (path : String) : Except Failure (List Record) → List Event
  | .ok _ => []
  | .error failure => if failure.isError then [.detectorFailed detector.id path] else []

/-- The signal to leave that an outcome is, if it is one. -/
def interruptOf? : Except Failure (List Record) → Option String
  | .error (.interrupt name) => some name
  | _ => none

/-- The outcome never reaches whoever waits for it. -/
def isLost : Except Failure (List Record) → Bool
  | .error .exhausted => true
  | _ => false

/-- Waits for the outcomes of detectors that were started together: a signal to leave ends the waiting,
an outcome that is lost makes it last forever, and errors add nothing. Of several signals, the one of
the first detector is taken to come first. -/
def gather (outcomes : List (Except Failure (List Record))) : Except AnalysisError (List Record) :=
  match outcomes.findSome? interruptOf? with
  | some name => .error (.interrupted name)
  | none => if outcomes.any isLost then .error .stalled else .ok (outcomes.flatMap recordsOf)

/-- Runs the stations that apply: the stations afterwards, and the outcomes with their detectors. -/
def runStations (applies : Detector → Bool) (vocabulary : Vocabulary) (document : Document) :
    List Station → List Station × List (Detector × Except Failure (List Record))
  | [] => ([], [])
  | station :: rest =>
    let (stations, outcomes) := runStations applies vocabulary document rest
    if applies station.detector then
      let (after, outcome) := station.run vocabulary document
      (after :: stations, (station.detector, outcome) :: outcomes)
    else (station :: stations, outcomes)

/-- The record with the severity that the configuration gives its kind. -/
def applyOverride (overrides : List (Kind × Severity)) (record : Record) : Record :=
  match overrides.lookup record.kind with
  | some severity => { record with severity := severity }
  | none => record

/-- The first record is listed before the second or does not care: more severe ones first, then
those on earlier lines. -/
def precedes (a b : Record) : Bool :=
  let order := a.severity.listingOrder b.severity
  order < 0 || (order == 0 && a.startLine ≤ b.startLine)

/-- What is reported of the records that detectors made. -/
def report (threshold : Severity) (overrides : List (Kind × Severity)) (records : List Record) :
    List Record :=
  ((records.filter fun record => record.severity.meets threshold).map
    (applyOverride overrides)).mergeSort precedes

/-- The threshold of a call. -/
def threshold (config : Config) : Option String → Except AnalysisError Severity
  | none => .ok config.minSeverity
  | some name =>
    match Severity.ofName? name with
    | some severity => .ok severity
    | none => .error (.unknownSeverity name)

/-- The result of a file. How long it took is left out, as is the time at which it was made. -/
def resultOf (path : String) (records : List Record) : Result :=
  ⟨path, Language.ofPath? path, records, .zero⟩

/-- Analyzes a document that is not left out, with a reader of the patterns of secrets. The severity
that is asked for is looked at when the detectors are done. The notes are those of detectors that all
come to their ends, also where a signal ends the call before. -/
def examine (analyzer : Analyzer) (config : Config) (options : AnalysisOptions)
    (document : Document) (compile : PatternReader := Vocabulary.readPattern) :
    Analyzer × Noted (Except AnalysisError Result) :=
  match Vocabulary.extend config.extensions compile with
  | .error fault => (analyzer, .plain (.error (.pattern fault)))
  | .ok vocabulary =>
    let applies := isApplicable (Language.ofPath? document.path) options.kinds config.enabledKinds
    let (stations, outcomes) := runStations applies vocabulary document analyzer.stations
    let outcome := do
      let records ← gather (outcomes.map (·.2))
      let limit ← threshold config options.minSeverity
      pure (resultOf document.path (report limit config.severityOverrides records))
    let events := outcomes.flatMap fun (detector, outcome) =>
      eventsOf detector document.path outcome
    ({ analyzer with stations := stations },
      ⟨outcome, vocabulary.rejectedPatterns.map .secretPatternRejected ++ events⟩)

/-- Analyzes a document. -/
def analyzeFile (analyzer : Analyzer) (options : AnalysisOptions) (document : Document)
    (compile : PatternReader := Vocabulary.readPattern) :
    Analyzer × Noted (Except AnalysisError Result) :=
  match analyzer.config.withOverride options.override with
  | .error issues => (analyzer, .plain (.error (.config issues)))
  | .ok config =>
    match Exclude.matchesAny config.exclude document.path with
    | .error fault => (analyzer, .plain (.error (.glob fault)))
    | .ok true => (analyzer, ⟨.ok (resultOf document.path []), [.fileExcluded document.path]⟩)
    | .ok false => analyzer.examine config options document compile

/-- Analyzes documents, each when the one before it is done; the first error is the outcome of all. The
analyses can as well go on at the same time, and then the same is said of each document. -/
def analyzeFiles (analyzer : Analyzer) (options : AnalysisOptions) :
    List Document → Analyzer × Noted (Except AnalysisError (List Result))
  | [] => (analyzer, .plain (.ok []))
  | document :: rest =>
    let (next, first) := analyzer.analyzeFile options document
    let (final, others) := next.analyzeFiles options rest
    let outcome := do
      let result ← first.outcome
      let results ← others.outcome
      pure (result :: results)
    (final, ⟨outcome, first.events ++ others.events⟩)

/-- How many files each detector has open. -/
def openCounts (analyzer : Analyzer) : List (String × Nat) :=
  analyzer.stations.map fun station => (station.detector.id, station.workspace.size)

end Analyzer

end Hazard
