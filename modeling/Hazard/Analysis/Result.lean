import Hazard.Finding.Record

/-!
Results of analyses, what they come to, and whether a run fails.
-/

namespace Hazard

/-- The findings of one file. -/
structure Result where
  /-- The path of the file, as it was given. -/
  file : String
  /-- The language of the file; none if it is not analyzed. -/
  language : Option String
  /-- The findings, in the order in which they are reported. -/
  records : List Record
  /-- How long the analysis took, in milliseconds. -/
  durationMs : Binary64
deriving DecidableEq, Repr

namespace Result

/-- All findings of several files. -/
def allRecords (results : List Result) : List Record := results.flatMap (·.records)

/-- Some finding is at least as severe as the threshold. -/
def fails (results : List Result) (threshold : Severity) : Bool :=
  (allRecords results).any fun record => record.severity.meets threshold

end Result

/-- What several results come to. -/
structure Summary where
  /-- The number of results. -/
  totalFiles : Nat
  /-- The number of findings of all results. -/
  totalRecords : Nat
  /-- The number of findings of every severity. -/
  bySeverity : List (Severity × Nat)
  /-- The number of findings of every kind that appears. -/
  byKind : List (Kind × Nat)
  /-- How long the analyses took together, in milliseconds. -/
  totalDurationMs : Binary64
deriving DecidableEq, Repr

namespace Summary

/-- One more of a key; a new key goes to the end. -/
def countOne {κ : Type} [DecidableEq κ] (key : κ) : List (κ × Nat) → List (κ × Nat)
  | [] => [(key, 1)]
  | (known, count) :: rest =>
    if known == key then (known, count + 1) :: rest else (known, count) :: countOne key rest

/-- How many findings are of each kind, in order of first appearance. -/
def kindCounts (records : List Record) : List (Kind × Nat) :=
  records.foldl (fun counts record => countOne record.kind counts) []

/-- How many findings are of each severity; a severity without findings is told as well. -/
def severityCounts (records : List Record) : List (Severity × Nat) :=
  records.foldl (fun counts record => countOne record.severity counts)
    (Severity.all.map fun severity => (severity, 0))

/-- What results come to. -/
def ofResults (results : List Result) : Summary :=
  let records := Result.allRecords results
  { totalFiles := results.length
    totalRecords := records.length
    bySeverity := severityCounts records
    byKind := kindCounts records
    totalDurationMs := results.foldl (fun total result => total.add result.durationMs) .zero }

/-- The number of findings of a severity. -/
def count (summary : Summary) (severity : Severity) : Nat :=
  (summary.bySeverity.lookup severity).getD 0

end Summary

end Hazard
