import Hazard.Finding.Kind
import Hazard.Finding.Timestamp

/-!
Findings. A draft is what a check says about a place; a record is a draft with its file, the detector
that made it, an identifier and the time.
-/

namespace Hazard

/-- Where a finding is; columns are known for some findings only. -/
structure Location where
  /-- The path of the file. -/
  file : String
  /-- The first line, counted from one. -/
  startLine : Nat
  /-- The last line, which belongs to it. -/
  endLine : Nat
  /-- The first column, counted from one. -/
  startColumn : Option Int
  /-- The column after the last one. -/
  endColumn : Option Int
deriving DecidableEq, Repr

/-- A reported finding. -/
structure Record where
  /-- What tells the finding from all others. -/
  id : String
  /-- What sort of weakness it is. -/
  kind : Kind
  /-- How grave it is. -/
  severity : Severity
  /-- Where it is. -/
  location : Location
  /-- What was found. -/
  description : String
  /-- Why it matters. -/
  explanation : String
  /-- The code in question. -/
  codeSnippet : String
  /-- What to do about it. -/
  suggestion : Option String
  /-- How sure the detector is, between zero and one. -/
  confidence : Binary64
  /-- Whether a repair can be applied without a look at it. -/
  autoFixAvailable : Bool
  /-- The detector that made it. -/
  detectorId : String
  /-- When it was made. -/
  detectedAt : Timestamp
deriving DecidableEq, Repr

namespace Record

/-- The file of a finding. -/
def file (record : Record) : String := record.location.file

/-- The first line of a finding. -/
def startLine (record : Record) : Nat := record.location.startLine

end Record

/-- What tells the findings of one run from those of another: a mark and the time. -/
structure Stamp where
  nonce : String
  time : Timestamp
deriving DecidableEq, Repr

/-- What a check says about a place. -/
structure Draft where
  /-- What sort of weakness it is. -/
  kind : Kind
  /-- How grave it is. -/
  severity : Severity
  /-- The first line, counted from one. -/
  startLine : Nat
  /-- The last line, which belongs to it. -/
  endLine : Nat
  /-- The first column and the one after the last, counted from one. -/
  columns : Option (Nat × Nat)
  /-- What was found. -/
  description : String
  /-- Why it matters. -/
  explanation : String
  /-- The code in question. -/
  codeSnippet : String
  /-- What to do about it. -/
  suggestion : Option String
  /-- How sure the check is, between zero and one. -/
  confidence : Binary64
  /-- Whether a repair can be applied without a look at it. -/
  autoFixAvailable : Bool
deriving DecidableEq, Repr

namespace Draft

/-- A confidence in hundredths. -/
def percent (n : Nat) : Binary64 := .ofDecimal false n (-2)

/-- The draft keeps the rules of records: lines are counted from one, and a confidence lies between zero
and one. -/
def isRecordable (draft : Draft) : Bool :=
  1 ≤ draft.startLine && 1 ≤ draft.endLine && draft.confidence.leInt 1 && draft.confidence.geInt 0

/-- The record of a draft. -/
def toRecord (draft : Draft) (detectorId file : String) (stamp : Stamp) : Record :=
  { id := detectorId ++ "-" ++ file ++ "-" ++ toString draft.startLine ++ "-" ++ stamp.nonce
    kind := draft.kind
    severity := draft.severity
    location :=
      { file := file
        startLine := draft.startLine
        endLine := draft.endLine
        startColumn := draft.columns.map fun c => (c.1 : Int)
        endColumn := draft.columns.map fun c => (c.2 : Int) }
    description := draft.description
    explanation := draft.explanation
    codeSnippet := draft.codeSnippet
    suggestion := draft.suggestion
    confidence := draft.confidence
    autoFixAvailable := draft.autoFixAvailable
    detectorId := detectorId
    detectedAt := stamp.time }

end Draft

end Hazard
