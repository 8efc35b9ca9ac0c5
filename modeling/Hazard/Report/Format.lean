import Hazard.Report.Console
import Hazard.Report.Records
import Hazard.Report.Sarif

/-!
The formats of reports.
-/

namespace Hazard.Report

/-- How results are reported. -/
inductive Format where
  | console
  | json
  | sarif
deriving DecidableEq, Repr

namespace Format

/-- The formats. -/
def all : List Format := [.console, .json, .sarif]

/-- The name of a format. -/
def name : Format → String
  | .console => "console"
  | .json => "json"
  | .sarif => "sarif"

/-- The format of a name. -/
def ofName? (text : String) : Option Format := all.find? (·.name == text)

/-- Writes results; `space` is the width of the console. A number with too many digits to be shown
leaves no text, except among the bare records. -/
def write (format : Format) (space : Nat) (results : List Result) : Option String :=
  match format with
  | .console => writeConsole space results
  | .json => some (writeRecords (Result.allRecords results) ++ "\n")
  | .sarif => (writeSarif (Result.allRecords results)).map (· ++ "\n")

end Format

end Hazard.Report
