import Hazard.Analysis.Analyzer
import Hazard.Config.Load
import Hazard.Files.Scan

/-!
What a command is given, and what comes of it.
-/

namespace Hazard.Command

/-- What ends a command early, without being told as an error of its use or of the configuration. -/
inductive Crash where
  | load (fault : Config.LoadError)
  | scan (fault : Scan.ScanError)
  | analysis (fault : AnalysisError)
  | file (fault : FileError)
  /-- A number of a finding has too many digits to be shown. -/
  | unshowable
deriving DecidableEq, Repr

/-- What a command works with. -/
structure Surroundings where
  store : Store
  /-- The syntax tree of a file's text. -/
  treeOf : Address → List Char → Option Tree
  stamps : Nat → Stamp
  /-- The width of the console. -/
  width : Nat

/-- What comes of a command. -/
structure Outcome where
  /-- The code that the command ends with. -/
  exitCode : Nat
  /-- What is written to the output. -/
  output : String
  /-- What is written to the error output. -/
  errors : String
  /-- The error that nothing caught, if there is one. -/
  crash : Option Crash
  /-- The files as the command leaves them. -/
  store : Store
  /-- The notes that were taken. -/
  events : List Event

namespace Outcome

/-- Nothing has happened yet. -/
def start (store : Store) : Outcome := ⟨0, "", "", none, store, []⟩

/-- Adds to the output. -/
def say (outcome : Outcome) (text : String) : Outcome :=
  { outcome with output := outcome.output ++ text }

/-- Adds to what is told aside. -/
def warn (outcome : Outcome) (text : String) : Outcome :=
  { outcome with errors := outcome.errors ++ text }

/-- Adds notes. -/
def note (outcome : Outcome) (events : List Event) : Outcome :=
  { outcome with events := outcome.events ++ events }

/-- Ends with a code. -/
def exit (outcome : Outcome) (code : Nat) : Outcome := { outcome with exitCode := code }

/-- Ends with an error that is told. -/
def fail (outcome : Outcome) (message : String) : Outcome :=
  (outcome.warn ("Error: " ++ message ++ "\n")).exit 1

/-- Ends with an error that is not told. -/
def crashed (outcome : Outcome) (fault : Crash) : Outcome :=
  { outcome with exitCode := 1, crash := some fault }

end Outcome

/-- The words that call the program. -/
def programName : String := "codegateway"

end Hazard.Command
