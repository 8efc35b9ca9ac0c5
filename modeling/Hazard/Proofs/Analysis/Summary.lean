import Hazard.Analysis.Result
import Hazard.Proofs.Data.Grouping
import Mathlib.Algebra.GroupWithZero.Nat
import Mathlib.Data.List.Perm.Basic

/-!
# What a summary tells

A summary counts the findings of results in all, by severity and by kind.  Its counts are those of the
findings, so they add up, and neither the order of the results nor that of their findings matters.  A
run fails for a threshold exactly if the summary has findings of that severity or of a higher one.
-/

namespace Hazard

open Grouping (withKey)

namespace Result

/-- The results of one list are those of the other in some order, each with its findings in some
order. -/
def Rearranged (results others : List Result) : Prop :=
  ∃ moved, results.Perm moved ∧
    List.Forall₂ (fun result other => result.records.Perm other.records) moved others

theorem allRecords_append (results others : List Result) :
    allRecords (results ++ others) = allRecords results ++ allRecords others :=
  List.flatMap_append

theorem Rearranged.length_eq {results others : List Result} (rearranged : Rearranged results others) :
    results.length = others.length := by
  obtain ⟨moved, perm, each⟩ := rearranged
  exact perm.length_eq.trans each.length_eq

theorem Rearranged.allRecords_perm {results others : List Result}
    (rearranged : Rearranged results others) : (allRecords results).Perm (allRecords others) := by
  obtain ⟨moved, perm, each⟩ := rearranged
  refine (perm.flatMap_right _).trans ?_
  clear perm
  induction each with
  | nil => exact .refl _
  | cons same _ ih =>
      rw [List.flatMap_cons, allRecords, List.flatMap_cons]
      exact same.append ih

end Result

namespace Summary

open Result (allRecords)

/-- The number of findings of a kind. -/
def countOf (summary : Summary) (kind : Kind) : Nat := (summary.byKind.lookup kind).getD 0

/-- The summary has the numbers of files and findings of the results, and tells how many findings are
of each severity and of each kind.  Kinds without findings are left out. -/
structure Describes (summary : Summary) (results : List Result) : Prop where
  /-- The number of files is that of the results. -/
  files : summary.totalFiles = results.length
  /-- The number of findings is that of all results together. -/
  records : summary.totalRecords = (allRecords results).length
  /-- The counts by severity add up to the number of findings. -/
  severitySum : (summary.bySeverity.map (·.2)).sum = summary.totalRecords
  /-- The counts by kind add up to the number of findings. -/
  kindSum : (summary.byKind.map (·.2)).sum = summary.totalRecords
  /-- Every severity is told, from the lowest to the highest. -/
  severities : summary.bySeverity.map (·.1) = [.info, .warning, .critical]
  /-- The kinds that are told are those of the findings. -/
  kinds (kind : Kind) :
    kind ∈ summary.byKind.map (·.1) ↔ ∃ record ∈ allRecords results, record.kind = kind
  /-- The kinds stand in the order of their first findings. -/
  firstSeen : (summary.byKind.map (·.1)).Pairwise fun earlier later =>
    ((allRecords results).map Record.kind).idxOf earlier <
      ((allRecords results).map Record.kind).idxOf later
  /-- No kind is told without a finding. -/
  positive : ∀ entry ∈ summary.byKind, 0 < entry.2
  /-- The count of a severity is the number of its findings. -/
  severityCount (severity : Severity) :
    summary.count severity = (allRecords results).countP (·.severity == severity)
  /-- The count of a kind is the number of its findings. -/
  kindCount (kind : Kind) : summary.countOf kind = (allRecords results).countP (·.kind == kind)

/-- Every count of the whole is the sum of the counts of the parts. -/
structure IsSum (whole first second : Summary) : Prop where
  /-- The files add up. -/
  files : whole.totalFiles = first.totalFiles + second.totalFiles
  /-- The findings add up. -/
  records : whole.totalRecords = first.totalRecords + second.totalRecords
  /-- The findings of each severity add up. -/
  severityCount (severity : Severity) :
    whole.count severity = first.count severity + second.count severity
  /-- The findings of each kind add up. -/
  kindCount (kind : Kind) : whole.countOf kind = first.countOf kind + second.countOf kind

/-- The summaries have the same counts; the kinds may stand in another order. -/
structure SameCounts (summary other : Summary) : Prop where
  /-- The numbers of files are equal. -/
  files : summary.totalFiles = other.totalFiles
  /-- The numbers of findings are equal. -/
  records : summary.totalRecords = other.totalRecords
  /-- The counts by severity are equal, and in the same order. -/
  bySeverity : summary.bySeverity = other.bySeverity
  /-- The counts by kind are equal up to their order. -/
  byKind : summary.byKind.Perm other.byKind
  /-- Each kind has the same number of findings. -/
  kindCount (kind : Kind) : summary.countOf kind = other.countOf kind

/-! ## Counts by severity -/

theorem countOne_eq {κ : Type} [DecidableEq κ] (key : κ) (counts : List (κ × Nat)) :
    countOne key counts = Grouping.enter key 1 (· + 1) counts := by
  induction counts with
  | nil => rfl
  | cons entry counts ih => rw [countOne, Grouping.enter, ih]

theorem mem_severities (severity : Severity) : severity ∈ Severity.all := by
  cases severity <;> decide

/-- Counted finding by finding, every severity has the number of its findings. -/
theorem severityCounts_eq (records : List Record) :
    severityCounts records = Severity.all.map fun severity =>
      (severity, (withKey Record.severity records severity).length) := by
  -- By the last finding, which raises the count of its severity alone.
  induction records using List.reverseRecOn with
  | nil => rfl
  | append_singleton records record ih =>
      rw [severityCounts] at ih ⊢
      rw [List.foldl_append, ih, List.foldl_cons, List.foldl_nil, countOne_eq,
        Grouping.enter_of_mem (by decide) (mem_severities record.severity)]
      refine List.map_congr_left fun severity _ => ?_
      rw [Grouping.withKey_append, List.length_append]
      by_cases same : severity = record.severity
      · have one : withKey Record.severity [record] severity = [record] :=
          List.filter_cons_of_pos (beq_iff_eq.mpr same.symm)
        rw [if_pos same, one, List.length_singleton]
      · have none : withKey Record.severity [record] severity = [] :=
          Grouping.withKey_eq_nil (by simpa using same)
        rw [if_neg same, none, List.length_nil, Nat.add_zero]

theorem count_ofResults (results : List Result) (severity : Severity) :
    (ofResults results).count severity =
      (withKey Record.severity (allRecords results) severity).length := by
  rw [count, ofResults, severityCounts_eq, Grouping.lookup_map_pair,
    if_pos (mem_severities severity)]
  rfl

theorem sum_severityCounts (records : List Record) :
    ((severityCounts records).map (·.2)).sum = records.length := by
  have all : (Severity.all.flatMap (withKey Record.severity records)).Perm records :=
    Grouping.flatMap_withKey_perm (by decide) fun record _ => mem_severities record.severity
  rw [← all.length_eq, List.length_flatMap, severityCounts_eq, List.map_map]
  rfl

theorem severityCounts_eq_of_perm {records others : List Record} (perm : records.Perm others) :
    severityCounts records = severityCounts others := by
  rw [severityCounts_eq, severityCounts_eq]
  refine List.map_congr_left fun severity _ => ?_
  rw [withKey, (perm.filter _).length_eq, withKey]

/-! ## Counts by kind -/

/-- Counted finding by finding, the kinds stand in order of first appearance, each with the number of
its findings. -/
theorem kindCounts_eq (records : List Record) :
    kindCounts records = (records.map Record.kind).eraseDups.map fun kind =>
      (kind, (withKey Record.kind records kind).length) := by
  rw [← Grouping.foldl_enter Grouping.accumulates_length, kindCounts]
  simp only [countOne_eq]

theorem keys_kindCounts (records : List Record) :
    (kindCounts records).map (·.1) = (records.map Record.kind).eraseDups := by
  rw [kindCounts_eq, List.map_map]
  exact List.map_id' _

theorem sum_kindCounts (records : List Record) :
    ((kindCounts records).map (·.2)).sum = records.length := by
  rw [← (Grouping.flatMap_eraseDups_perm Record.kind records).length_eq, List.length_flatMap,
    kindCounts_eq, List.map_map]
  rfl

theorem countOf_ofResults (results : List Result) (kind : Kind) :
    (ofResults results).countOf kind =
      (withKey Record.kind (allRecords results) kind).length := by
  rw [countOf, ofResults, kindCounts_eq, Grouping.lookup_map_pair]
  split
  · rfl
  · rename_i missing
    rw [Grouping.withKey_eq_nil (mt List.mem_eraseDups.mpr missing)]
    rfl

theorem kindCounts_perm {records others : List Record} (perm : records.Perm others) :
    (kindCounts records).Perm (kindCounts others) := by
  have keys : (records.map Record.kind).eraseDups.Perm (others.map Record.kind).eraseDups := by
    refine (List.perm_ext_iff_of_nodup (Grouping.nodup_eraseDups _)
      (Grouping.nodup_eraseDups _)).mpr fun kind => ?_
    rw [List.mem_eraseDups, List.mem_eraseDups]
    exact (perm.map Record.kind).mem_iff
  have same (kind : Kind) : (withKey Record.kind records kind).length =
      (withKey Record.kind others kind).length := (perm.filter _).length_eq
  rw [kindCounts_eq, kindCounts_eq]
  simp only [same]
  exact keys.map _

/-! ## Summaries of results -/

theorem ofResults_byKind (results : List Result) :
    (ofResults results).byKind = kindCounts (allRecords results) := rfl

theorem describes_ofResults (results : List Result) : (ofResults results).Describes results where
  files := rfl
  records := rfl
  severitySum := sum_severityCounts (allRecords results)
  kindSum := sum_kindCounts (allRecords results)
  severities := by
    rw [ofResults, severityCounts_eq]
    rfl
  kinds kind := by
    rw [ofResults_byKind, keys_kindCounts, List.mem_eraseDups, List.mem_map]
  firstSeen := by
    rw [ofResults_byKind, keys_kindCounts]
    exact Grouping.pairwise_eraseDups _
  positive := by
    rw [ofResults_byKind, kindCounts_eq, List.forall_mem_map]
    intro kind seen
    exact List.length_pos_of_ne_nil (Grouping.withKey_ne_nil (List.mem_eraseDups.mp seen))
  severityCount severity := by
    rw [count_ofResults, List.countP_eq_length_filter]
    rfl
  kindCount kind := by
    rw [countOf_ofResults, List.countP_eq_length_filter]
    rfl

theorem isSum_ofResults_append (results others : List Result) :
    (ofResults (results ++ others)).IsSum (ofResults results) (ofResults others) where
  files := List.length_append
  records := by
    rw [ofResults, Result.allRecords_append]
    exact List.length_append
  severityCount severity := by
    rw [count_ofResults, count_ofResults, count_ofResults, Result.allRecords_append,
      Grouping.withKey_append, List.length_append]
  kindCount kind := by
    rw [countOf_ofResults, countOf_ofResults, countOf_ofResults, Result.allRecords_append,
      Grouping.withKey_append, List.length_append]

theorem sameCounts_of_rearranged {results others : List Result}
    (rearranged : Result.Rearranged results others) :
    (ofResults results).SameCounts (ofResults others) where
  files := rearranged.length_eq
  records := rearranged.allRecords_perm.length_eq
  bySeverity := severityCounts_eq_of_perm rearranged.allRecords_perm
  byKind := kindCounts_perm rearranged.allRecords_perm
  kindCount kind := by
    rw [countOf_ofResults, countOf_ofResults]
    exact (rearranged.allRecords_perm.filter _).length_eq

/-! ## Failing -/

theorem fails_iff_exists_record (results : List Result) (threshold : Severity) :
    Result.fails results threshold = true ↔
      ∃ record ∈ allRecords results, threshold.rank ≤ record.severity.rank := by
  simp only [Result.fails, List.any_eq_true, Severity.meets, decide_eq_true_eq]

theorem fails_iff_exists_count (results : List Result) (threshold : Severity) :
    Result.fails results threshold = true ↔
      ∃ entry ∈ (ofResults results).bySeverity, threshold.rank ≤ entry.1.rank ∧ 0 < entry.2 := by
  rw [fails_iff_exists_record, ofResults, severityCounts_eq]
  constructor
  · rintro ⟨record, member, high⟩
    refine ⟨_, List.mem_map_of_mem (mem_severities record.severity), high, ?_⟩
    exact List.length_pos_of_mem (List.mem_filter.mpr ⟨member, beq_self_eq_true _⟩)
  · rintro ⟨entry, listed, high, positive⟩
    obtain ⟨severity, -, rfl⟩ := List.mem_map.mp listed
    obtain ⟨record, chosen⟩ := List.exists_mem_of_length_pos positive
    obtain ⟨member, same⟩ := List.mem_filter.mp chosen
    exact ⟨record, member, by rwa [beq_iff_eq.mp same]⟩

/-- What fails for a threshold fails for every lower one. -/
theorem fails_mono {results : List Result} {threshold lower : Severity}
    (le : lower.rank ≤ threshold.rank) (fails : Result.fails results threshold = true) :
    Result.fails results lower = true := by
  rw [fails_iff_exists_record] at fails ⊢
  obtain ⟨record, member, high⟩ := fails
  exact ⟨record, member, Nat.le_trans le high⟩

/-- The summary of results describes them, summaries add up and do not depend on any order, and a run
fails exactly if its summary counts a finding at the threshold or above. -/
theorem ofResults_agrees (results others : List Result) (threshold : Severity) :
    (ofResults results).Describes results ∧
    (ofResults (results ++ others)).IsSum (ofResults results) (ofResults others) ∧
    (Result.Rearranged results others →
      (ofResults results).SameCounts (ofResults others)) ∧
    (Result.fails results threshold = true ↔
      ∃ entry ∈ (ofResults results).bySeverity, threshold.rank ≤ entry.1.rank ∧ 0 < entry.2) ∧
    ∀ lower : Severity, lower.rank ≤ threshold.rank → Result.fails results threshold = true →
      Result.fails results lower = true :=
  ⟨describes_ofResults results, isSum_ofResults_append results others, sameCounts_of_rearranged,
    fails_iff_exists_count results threshold, fun _ le => fails_mono le⟩

/-- A finding that tells little more than its kind and its severity. -/
def bareRecord (kind : Kind) (severity : Severity) : Record where
  id := "n-a.ts-1-0"
  kind := kind
  severity := severity
  location := ⟨"a.ts", 1, 1, none, none⟩
  description := ""
  explanation := ""
  codeSnippet := ""
  suggestion := none
  confidence := .zero
  autoFixAvailable := false
  detectorId := "n"
  detectedAt := ⟨2024, 1, 2, 3, 4, 5, 0, none⟩

def mixedRecords : List Record :=
  [bareRecord .magicNumber .warning, bareRecord .emptyCatchBlock .critical]

theorem ofResults_agrees_twoFiles :
    (ofResults [⟨"a.ts", none, mixedRecords, .zero⟩, ⟨"b.ts", none, [], .zero⟩]).SameCounts
        (ofResults [⟨"b.ts", none, [], .zero⟩, ⟨"a.ts", none, mixedRecords.reverse, .zero⟩]) ∧
      Result.fails [⟨"a.ts", none, mixedRecords, .zero⟩] .warning = true := by
  constructor
  · apply (ofResults_agrees _ _ .critical).2.2.1
    refine ⟨_, .swap .., .cons (.refl _) (.cons ?_ .nil)⟩
    exact (List.reverse_perm mixedRecords).symm
  · apply (ofResults_agrees _ [] .critical).2.2.2.2
    · decide
    · decide

end Summary

end Hazard
