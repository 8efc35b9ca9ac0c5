import Hazard.Proofs.Finding.Codec
import Hazard.Report.Records

/-!
# Reading the report of records

Valid records are read back from their report, all in their order and with every part, if and only if
no number of theirs is too long and the offsets of their times are whole minutes.  With a longer number the
report is not read at all; of other offsets the whole minutes are kept, or the times are refused.  Whatever
is read from any text is read back from its own report.
-/

namespace Hazard.Report

open Json (HasForm IsShort)

section

variable {records : List Record}

theorem hasForm_recordsValue (valid : ∀ record ∈ records, record.Valid) :
    (Value.list (records.map Record.toValue)).Regular HasForm := by
  simp only [Value.regular_list_iff, List.forall_mem_map]
  intro record mem
  exact Record.hasForm_toValue (valid record mem)

theorem isShort_recordsValue_iff :
    (Value.list (records.map Record.toValue)).Regular IsShort ↔
      ∀ record ∈ records, record.location.Legible := by
  simp only [Value.regular_list_iff, List.forall_mem_map, Record.isShort_toValue_iff]

theorem toList_writeRecords :
    (writeRecords records).toList =
      Json.valueText Json.readable 0 (.list (records.map Record.toValue)) ++ [] := by
  rw [writeRecords, Json.render, String.toList_ofList, List.append_nil]

theorem parse?_writeRecords (valid : ∀ record ∈ records, record.Valid) :
    Json.parse? (writeRecords records).toList = some (.list (records.map Record.toValue)) := by
  rw [toList_writeRecords]
  exact Json.parse?_valueText (by decide) (hasForm_recordsValue valid) (List.forall_mem_nil _)

theorem hasLongNumber_writeRecords (valid : ∀ record ∈ records, record.Valid) :
    Json.hasLongNumber (writeRecords records).toList = false ↔
      ∀ record ∈ records, record.location.Legible := by
  rw [toList_writeRecords,
    Json.hasLongNumber_valueText (by decide) (hasForm_recordsValue valid) (List.forall_mem_nil _),
    isShort_recordsValue_iff]

/-- The issues of records whose times cannot be told, each at the place of its record. -/
def untoldIssues (records : List Record) : List Issue :=
  (records.mapIdx fun index record =>
    if record.detectedAt.Tellable then []
    else [⟨.index index :: Record.untoldIssue.location, Record.untoldIssue.kind⟩]).flatten

theorem issues_list_ofValue_toValue (valid : ∀ record ∈ records, record.Valid) (now : Timestamp) :
    (Read.list (Record.ofValue now) (.list (records.map Record.toValue))).issues =
      untoldIssues records := by
  rw [Read.list, Read.items, Checked.issues_all, List.flatMap, untoldIssues]
  refine congrArg List.flatten (List.ext_getElem? fun index => ?_)
  rw [List.getElem?_map, List.getElem?_mapIdx, List.getElem?_mapIdx, List.getElem?_map,
    Option.map_map, Option.map_map]
  cases found : records[index]? with
  | none => rfl
  | some record =>
      have record_valid := valid record (List.mem_of_getElem? found)
      simp only [Option.map_some, Function.comp_apply, Record.ofValue_toValue record_valid]
      split <;> rfl

/-- What the values of valid records are read as. -/
theorem list_ofValue_toValue (valid : ∀ record ∈ records, record.Valid) (now : Timestamp) :
    Read.list (Record.ofValue now) (.list (records.map Record.toValue)) =
      if ∀ record ∈ records, record.detectedAt.Tellable then .ok (records.map Record.told)
      else .error (untoldIssues records) := by
  split_ifs with tellable
  · refine Read.list_eq_ok_iff.mpr ⟨_, rfl, ?_⟩
    rw [List.map_map, List.map_map]
    refine List.map_congr_left fun record mem => ?_
    rw [Function.comp_apply, Record.ofValue_toValue (valid record mem), if_pos (tellable record mem),
      Function.comp_apply]
  · rw [← issues_list_ofValue_toValue valid now]
    cases read : Read.list (Record.ofValue now) (.list (records.map Record.toValue)) with
    | error issues => rfl
    | ok others =>
        obtain ⟨values, same, each⟩ := Read.list_eq_ok_iff.mp read
        obtain rfl := Value.list.inj same
        refine absurd (fun record mem => ?_) tellable
        have listed : Record.ofValue now record.toValue ∈ others.map .ok := by
          rw [← each]
          exact List.mem_map_of_mem (List.mem_map_of_mem mem)
        obtain ⟨other, -, read⟩ := List.mem_map.mp listed
        rw [Record.ofValue_toValue (valid record mem)] at read
        split at read
        · assumption
        · contradiction

/-- What a report of valid records is read as. -/
theorem readRecords_writeRecords (valid : ∀ record ∈ records, record.Valid) (now : Timestamp) :
    readRecords now (writeRecords records) =
      if ∀ record ∈ records, record.location.Legible then
        if ∀ record ∈ records, record.detectedAt.Tellable then .ok (records.map Record.told)
        else .error (untoldIssues records)
      else Checked.issue .jsonInvalid := by
  rw [readRecords, parse?_writeRecords valid]
  by_cases legible : ∀ record ∈ records, record.location.Legible
  · rw [(hasLongNumber_writeRecords valid).mpr legible, if_neg Bool.false_ne_true, if_pos legible]
    exact list_ofValue_toValue valid now
  · rw [if_neg legible]
    rw [← hasLongNumber_writeRecords valid, Bool.not_eq_false] at legible
    rw [if_pos legible]

/-- Valid records are read back if and only if they can be repeated. -/
theorem readRecords_writeRecords_eq_ok_iff (valid : ∀ record ∈ records, record.Valid)
    (now : Timestamp) :
    readRecords now (writeRecords records) = .ok records ↔
      ∀ record ∈ records, record.Repeatable := by
  rw [readRecords_writeRecords valid]
  constructor
  · intro read record mem
    split_ifs at read with legible tellable
    · have same : records.map Record.told = records.map id := by
        rw [List.map_id]
        exact Except.ok.inj read
      exact ⟨legible record mem,
        Record.told_eq_self_iff.mp (List.map_inj_left.mp same record mem)⟩
    · contradiction
  · intro repeatable
    have told : records.map Record.told = records := by
      refine (List.map_congr_left fun record mem => ?_).trans (List.map_id records)
      exact Record.told_eq_self_iff.mpr (repeatable record mem).detectedAt
    have tellable : ∀ record ∈ records, record.detectedAt.Tellable := fun record mem =>
      (repeatable record mem).detectedAt.tellable (valid record mem).detectedAt
    rw [if_pos fun record mem => (repeatable record mem).location, if_pos tellable, told]

/-- What is read can be written and read again. -/
theorem valid_of_readRecords {now : Timestamp} (now_valid : now.Valid)
    (now_whole : now.WholeMinutes) {text : String} (read : readRecords now text = .ok records) :
    ∀ record ∈ records, record.Valid ∧ record.Repeatable := by
  rw [readRecords] at read
  split at read
  · contradiction
  · rename_i short
    split at read
    · rename_i value parsed
      obtain ⟨values, rfl, each⟩ := Read.list_eq_ok_iff.mp read
      have hasForm := Value.regular_list_iff.mp (Json.hasForm_of_parse? parsed)
      have isShort := Value.regular_list_iff.mp
        (Json.isShort_of_parse? parsed (Bool.eq_false_iff.mpr short))
      intro record mem
      obtain ⟨value, listed, read⟩ : ∃ value ∈ values, Record.ofValue now value = .ok record := by
        have image : Except.ok record ∈ values.map (Record.ofValue now) := by
          rw [each]
          exact List.mem_map_of_mem mem
        exact List.mem_map.mp image
      exact Record.valid_of_ofValue now_valid now_whole (hasForm value listed)
        (isShort value listed) read
    · contradiction

end

/-- Reports of valid records are read back if and only if the records can be repeated, and it is told
what else they are read as.  Reports of what was read from any text are normal: read and written
again, they stay as they are. -/
theorem report_readBack (now : Timestamp) (records : List Record)
    (valid : ∀ record ∈ records, record.Valid) :
    (readRecords now (writeRecords records) = .ok records ↔
      ∀ record ∈ records, record.Repeatable) ∧
    (readRecords now (writeRecords records) =
      if ∀ record ∈ records, record.location.Legible then
        if ∀ record ∈ records, record.detectedAt.Tellable then .ok (records.map Record.told)
        else .error (untoldIssues records)
      else Checked.issue .jsonInvalid) ∧
    ∀ (later : Timestamp) (text : String) (others : List Record), now.Valid → now.WholeMinutes →
      readRecords now text = .ok others →
        readRecords later (writeRecords others) = .ok others ∧
        (readRecords later (writeRecords others)).map writeRecords = .ok (writeRecords others) := by
  refine ⟨readRecords_writeRecords_eq_ok_iff valid now, readRecords_writeRecords valid now, ?_⟩
  intro later text others now_valid now_whole read
  have others_valid := valid_of_readRecords now_valid now_whole read
  have again : readRecords later (writeRecords others) = .ok others :=
    (readRecords_writeRecords_eq_ok_iff (fun record mem => (others_valid record mem).1) later).mpr
      fun record mem => (others_valid record mem).2
  exact ⟨again, by rw [again]; rfl⟩

/-- A record with characters of every kind. -/
def awkwardRecord : Record where
  id := "naming-src/é.js-1-\"x\""
  kind := .magicNumber
  severity := .critical
  location := ⟨"src\\é.js", 1, 2, some (-7), none⟩
  description := "tab\tquote\"backslash\\"
  explanation := "\x00\x1f\x7f"
  codeSnippet := "ключ 日本 😀\r\n"
  suggestion := some ""
  confidence := Record.usualConfidence
  autoFixAvailable := true
  detectorId := "naming"
  detectedAt := ⟨2024, 2, 29, 23, 59, 59, 999999, some (-330 * Timestamp.minuteLength)⟩

theorem valid_awkwardRecord : awkwardRecord.Valid where
  location := ⟨by decide, by decide⟩
  confidence := Record.isConfidence_usualConfidence
  detectedAt := ⟨by decide, by decide, by decide, by decide, by decide, by decide⟩

/-- The least that a record tells, with numbers in other forms. -/
def sparseText : String :=
  "[\x7b\"id\":\"a\",\"type\":\"magic_number\",\"severity\":\"info\"," ++
    "\"location\":\x7b\"file\":\"f\",\"start_line\":\"1\",\"end_line\":2.0\x7d," ++
    "\"description\":\"\\u00e9\",\"explanation\":\"\",\"code_snippet\":\"\",\"detector_id\":\"n\"\x7d]"

def sparseRecord : Record where
  id := "a"
  kind := .magicNumber
  severity := .info
  location := ⟨"f", 1, 2, none, none⟩
  description := "é"
  explanation := ""
  codeSnippet := ""
  suggestion := none
  confidence := Record.usualConfidence
  autoFixAvailable := false
  detectorId := "n"
  detectedAt := ⟨2024, 1, 2, 3, 4, 5, 0, some 0⟩

theorem valid_sparseRecord : sparseRecord.Valid where
  location := ⟨by decide, by decide⟩
  confidence := Record.isConfidence_usualConfidence
  detectedAt := ⟨by decide, by decide, by decide, by decide, by decide, by decide⟩

theorem report_readBack_awkward :
    readRecords sparseRecord.detectedAt (writeRecords [awkwardRecord]) = .ok [awkwardRecord] ∧
    readRecords sparseRecord.detectedAt sparseText = .ok [sparseRecord] ∧
    readRecords awkwardRecord.detectedAt (writeRecords [sparseRecord]) = .ok [sparseRecord] := by
  have valid : ∀ record ∈ [awkwardRecord], record.Valid :=
    List.forall_mem_singleton.mpr valid_awkwardRecord
  have repeatable : ∀ record ∈ [awkwardRecord], record.Repeatable := by decide +kernel
  have read : readRecords sparseRecord.detectedAt sparseText = .ok [sparseRecord] := by
    decide +kernel
  obtain ⟨back, -, normal⟩ := report_readBack sparseRecord.detectedAt [awkwardRecord] valid
  exact ⟨back.mpr repeatable, read,
    (normal _ _ _ valid_sparseRecord.detectedAt (by decide +kernel) read).1⟩

/-- A record whose column has five thousand digits. -/
def farRecord : Record :=
  { sparseRecord with location := ⟨"f", 1, 1, some (Nat.pow 10 4999 : Nat), none⟩ }

theorem valid_farRecord : farRecord.Valid :=
  { valid_sparseRecord with location := ⟨by decide, by decide⟩ }

theorem lt_length_integer_pow {limit size : Nat} (pos : 0 < limit) (le : limit ≤ size) :
    limit < (Json.integer (Nat.pow 10 size : Nat)).length := by
  rw [Json.integer, List.length_append, Int.natAbs_natCast]
  refine Nat.lt_of_lt_of_le ?_ (Nat.le_add_left _ _)
  rw [← Nat.not_le, Nat.length_toDigits_le_iff (by decide) pos, Nat.not_lt]
  exact Nat.pow_le_pow_right (by decide) le

theorem not_legible_farRecord : ¬ farRecord.location.Legible := by
  intro legible
  have short := legible (Nat.pow 10 4999 : Nat) (.tail _ (.tail _ (.head _)))
  exact Nat.not_le.mpr (lt_length_integer_pow (by decide) (by decide)) short

theorem not_readBack_farRecord :
    farRecord.Valid ∧
    readRecords farRecord.detectedAt (writeRecords [farRecord]) = Checked.issue .jsonInvalid := by
  have valid : ∀ record ∈ [farRecord], record.Valid :=
    List.forall_mem_singleton.mpr valid_farRecord
  rw [readRecords_writeRecords valid]
  exact ⟨valid_farRecord, if_neg fun legible => not_legible_farRecord (legible _ List.mem_cons_self)⟩

end Hazard.Report
