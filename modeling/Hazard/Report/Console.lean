import Hazard.Analysis.Result
import Hazard.Number.Literal
import Hazard.Report.Table
import Hazard.Text.Case

/-!
The report for people: findings by file, and a table of severities. It ends early at a line whose number
has too many digits to be shown; what was told before is left out then.
-/

namespace Hazard.Report

/-- The style of a severity, by its name. -/
def severityStyle (name : String) : String :=
  (([("critical", "red"), ("warning", "yellow"), ("info", "blue")] : List (String × String)).lookup
    name).getD "white"

/-- A name in capital letters between the marks of its style. -/
def colorized (name : String) : String :=
  let style := severityStyle name
  "[" ++ style ++ "]" ++ String.ofList (Text.upper name.toList) ++ "[/" ++ style ++ "]"

/-- Adds a record to the group of its file; a new file goes to the end. -/
def addToGroup (record : Record) : List (String × List Record) → List (String × List Record)
  | [] => [(record.file, [record])]
  | (file, records) :: rest =>
    if file == record.file then (file, records ++ [record]) :: rest
    else (file, records) :: addToGroup record rest

/-- The records by file, in order of first appearance. -/
def groupByFile (records : List Record) : List (String × List Record) :=
  records.foldl (fun groups record => addToGroup record groups) []

/-- What remains of a control sequence after its opening bracket, if it is one. -/
def afterControl? (text : List Char) : Option (List Char) :=
  match text.dropWhile fun c => c.isDigit || c == ';' || c == '?' with
  | c :: rest => if c.isAlpha then some rest else none
  | [] => none

/-- The text without sequences that control a terminal; the number bounds the steps. -/
def withoutControls : Nat → List Char → List Char
  | 0, text => text
  | steps + 1, '\x1b' :: '[' :: rest =>
    match afterControl? rest with
    | some after => withoutControls steps after
    | none => '\x1b' :: withoutControls steps ('[' :: rest)
  | steps + 1, c :: rest => c :: withoutControls steps rest
  | _ + 1, [] => []

/-- A line of output. -/
def line (text : String) : String :=
  String.ofList (withoutControls text.length text.toList) ++ "\n"

/-- A severity in capital letters. -/
def shownSeverity (severity : Severity) : String :=
  String.ofList (Text.upper severity.name.toList)

/-- The lines of a record, unless the number of its line cannot be shown. -/
def recordLines (record : Record) : Option String := do
  let number ← Numeral.showInt? record.startLine
  let advice := match record.suggestion with
    | some suggestion => if suggestion.isEmpty then "" else line ("     -> " ++ suggestion)
    | none => ""
  pure (line ("  [" ++ shownSeverity record.severity ++ "] Line " ++ number ++ ": " ++
    record.description) ++ line ("     " ++ record.explanation) ++ advice)

/-- The lines of a file. -/
def groupLines (file : String) (records : List Record) : Option String := do
  let shown ← records.mapM recordLines
  pure (line ("\n" ++ file) ++ line (String.ofList (List.replicate file.length '=')) ++
    String.join shown)

/-- The table of a summary. -/
def summaryTable (space : Nat) (summary : Summary) : String :=
  let rows := [Severity.critical, .warning, .info].map fun severity =>
    [(shownSeverity severity).toList, (toString (summary.count severity)).toList]
  String.join ((tableLines space ["Severity".toList, "Count".toList] rows).map fun text =>
    String.ofList text ++ "\n")

/-- Writes the findings of results and what they come to, in the given space. -/
def writeConsole (space : Nat) (results : List Result) : Option String := do
  let groups ← (groupByFile (Result.allRecords results)).mapM fun group =>
    groupLines group.1 group.2
  let summary := Summary.ofResults results
  pure (String.join groups ++ line ("\n" ++ String.ofList (List.replicate 50 '=')) ++
    line ("Summary: " ++ toString summary.totalRecords ++ " pattern(s) found") ++
    summaryTable space summary)

end Hazard.Report
