import Hazard.Data.Json.Writer
import Hazard.Finding.Codec
import Hazard.Text.Slice

/-!
The report for code scanning services: a log in the static analysis results interchange format. The
log names a rule for every kind, and every finding keeps its full record.
-/

namespace Hazard.Report

/-- Where the format is described. -/
def sarifSchema : String := "https://json.schemastore.org/sarif-2.1.0.json"

/-- The version of the format. -/
def sarifVersion : String := "2.1.0"

/-- The version of this tool. -/
def toolVersion : String := "0.1.0"

/-- The level that stands for a severity. -/
def sarifLevel : Severity → String
  | .critical => "error"
  | .warning => "warning"
  | .info => "note"

/-- The rule of a kind. -/
def sarifRule (kind : Kind) : Value :=
  .record
    [("id", .str kind.name), ("name", .str kind.name),
      ("shortDescription", .record [("text", .str kind.description)]),
      ("defaultConfiguration", .record [("level", .str (sarifLevel kind.defaultSeverity))])]

/-- The place of a kind among the rules. -/
def ruleIndex (kind : Kind) : Nat := Kind.all.idxOf kind

/-- A column of a region, if it is known. -/
def sarifColumn (name : String) : Option Int → List (String × Value)
  | some column => [(name, .int column)]
  | none => []

/-- The region of a record. -/
def sarifRegion (record : Record) : Value :=
  .record
    ([("startLine", .int record.location.startLine), ("endLine", .int record.location.endLine),
        ("snippet", .record [("text", .str record.codeSnippet)])] ++
      sarifColumn "startColumn" record.location.startColumn ++
      sarifColumn "endColumn" record.location.endColumn)

/-- The address of a file, with slashes. -/
def sarifUri (file : String) : String := String.ofList (Text.replaceChar '\\' '/' file.toList)

/-- The entry of a record. -/
def sarifResult (record : Record) : Value :=
  .record
    [("ruleId", .str record.kind.name), ("ruleIndex", .int (ruleIndex record.kind)),
      ("level", .str (sarifLevel record.severity)),
      ("message", .record [("text", .str record.description)]),
      ("locations", .list
        [.record
          [("physicalLocation", .record
            [("artifactLocation", .record [("uri", .str (sarifUri record.file))]),
              ("region", sarifRegion record)])]]),
      ("properties", record.toValue)]

/-- The log of records. -/
def sarifLog (records : List Record) : Value :=
  .record
    [("$schema", .str sarifSchema), ("version", .str sarifVersion),
      ("runs", .list
        [.record
          [("tool", .record
            [("driver", .record
              [("name", .str "codegateway"), ("version", .str toolVersion),
                ("rules", .list (Kind.all.map sarifRule))])]),
            ("results", .list (records.map sarifResult))]])]

/-- Writes the log of records, unless a number of theirs has too many digits to be shown. -/
def writeSarif (records : List Record) : Option String :=
  Json.dump? Json.portable (sarifLog records)

end Hazard.Report
