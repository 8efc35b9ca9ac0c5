import Hazard.Data.Read
import Hazard.Finding.Record

/-!
Records as values of data files, written and read back.
-/

namespace Hazard

/-- A column as a value. -/
def Location.columnValue (column : Option Int) : Value := Value.ofOption .int column

/-- A location as a value. -/
def Location.toValue (location : Location) : Value :=
  .record
    [("file", .str location.file), ("start_line", .int location.startLine),
      ("end_line", .int location.endLine), ("start_column", columnValue location.startColumn),
      ("end_column", columnValue location.endColumn)]

/-- A number of a line, which is at least one. -/
def Location.readLine (value : Value) : Checked Nat :=
  match Read.int value with
  | .ok n => if 1 ≤ n then .ok n.toNat else Checked.issue .greaterThanEqual
  | .error issues => .error issues

/-- Reads a location. -/
def Location.ofValue : Value → Checked Location
  | .map entries =>
    Checked.start Location.mk
      |>.both (Read.field ["file"] Read.string none entries)
      |>.both (Read.field ["start_line"] readLine none entries)
      |>.both (Read.field ["end_line"] readLine none entries)
      |>.both (Read.field ["start_column"] (Read.optional Read.int) (some none) entries)
      |>.both (Read.field ["end_column"] (Read.optional Read.int) (some none) entries)
  | _ => Checked.issue .modelType

/-- The fraction of a second in a number of seconds, rounded to millionths. -/
def Timestamp.microsecondsOf (significand : Nat) (exponent : Int) : Nat :=
  let (numerator, denominator) := Binary64.ratio significand exponent
  Binary64.divideToEven (numerator % denominator * 1000000) denominator

/-- The point in time that a number of seconds stands for. -/
def Timestamp.ofFloat? : Binary64 → Option Timestamp
  | .finite negative significand exponent =>
    let (numerator, denominator) := Binary64.ratio significand exponent
    let whole : Int := if negative then -((numerator + denominator - 1) / denominator : Nat)
      else (numerator / denominator : Nat)
    ofUnix? whole (microsecondsOf significand exponent)
  | _ => none

/-- Reads a point in time: a text, or a number of seconds. -/
def Timestamp.ofValue : Value → Checked Timestamp
  | .scalar (.int n) =>
    match ofUnix? n 0 with
    | some time => .ok time
    | none => Checked.issue .datetimeParsing
  | .scalar (.float x) =>
    match ofFloat? x with
    | some time => .ok time
    | none => Checked.issue .datetimeParsing
  | .scalar value =>
    match Read.text? value with
    | some text =>
      match ofText? text.toList with
      | some time => .ok time
      | none => Checked.issue .datetimeFromDateParsing
    | none => Checked.issue .datetimeType
  | _ => Checked.issue .datetimeType

namespace Record

/-- The confidence of a record that does not tell it. -/
def usualConfidence : Binary64 := Draft.percent 80

/-- A record as a value. -/
def toValue (record : Record) : Value :=
  .record
    [("id", .str record.id), ("type", .str record.kind.name),
      ("severity", .str record.severity.name), ("location", record.location.toValue),
      ("description", .str record.description), ("explanation", .str record.explanation),
      ("code_snippet", .str record.codeSnippet),
      ("suggestion", Value.ofOption .str record.suggestion),
      ("confidence", .float record.confidence),
      ("auto_fix_available", .bool record.autoFixAvailable),
      ("detector_id", .str record.detectorId),
      ("detected_at", .str (String.ofList record.detectedAt.toText))]

/-- A confidence, from zero to one. -/
def readConfidence (value : Value) : Checked Binary64 :=
  match Read.float value with
  | .ok x =>
    if !x.leInt 1 then Checked.issue .lessThanEqual
    else if !x.geInt 0 then Checked.issue .greaterThanEqual
    else .ok x
  | .error issues => .error issues

/-- Reads a record; `now` is the time of one that does not tell it. -/
def ofValue (now : Timestamp) : Value → Checked Record
  | .map entries =>
    Checked.start Record.mk
      |>.both (Read.field ["id"] Read.string none entries)
      |>.both (Read.field ["type"] (Read.named Kind.ofName?) none entries)
      |>.both (Read.field ["severity"] (Read.named Severity.ofName?) none entries)
      |>.both (Read.field ["location"] Location.ofValue none entries)
      |>.both (Read.field ["description"] Read.string none entries)
      |>.both (Read.field ["explanation"] Read.string none entries)
      |>.both (Read.field ["code_snippet"] Read.string none entries)
      |>.both (Read.field ["suggestion"] (Read.optional Read.string) (some none) entries)
      |>.both (Read.field ["confidence"] readConfidence (some usualConfidence) entries)
      |>.both (Read.field ["auto_fix_available"] Read.bool (some false) entries)
      |>.both (Read.field ["detector_id"] Read.string none entries)
      |>.both (Read.field ["detected_at"] Timestamp.ofValue (some now) entries)
  | _ => Checked.issue .modelType

end Record

end Hazard
