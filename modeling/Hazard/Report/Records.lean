import Hazard.Data.Json.Load
import Hazard.Data.Json.Writer
import Hazard.Finding.Codec

/-!
The report that is a list of records in JSON, and reading it back.
-/

namespace Hazard.Report

/-- Writes records. -/
def writeRecords (records : List Record) : String :=
  Json.render Json.readable (.list (records.map Record.toValue))

/-- Reads a list of records; `now` is the time of those that do not tell it. -/
def readRecords (now : Timestamp) (text : String) : Checked (List Record) :=
  if Json.hasLongNumber text.toList then Checked.issue .jsonInvalid
  else match Json.parse? text.toList with
    | some value => Read.list (Record.ofValue now) value
    | none => Checked.issue .jsonInvalid

end Hazard.Report
