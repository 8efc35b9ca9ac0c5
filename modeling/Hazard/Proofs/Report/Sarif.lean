import Hazard.Proofs.Data.Json.Loading
import Hazard.Proofs.Report.Records
import Hazard.Report.Format

/-!
# Reading the log of records

The log is written unless a number of a record has too many digits, and it is read back from its text.
It has one entry for every record, in their order; the entry keeps the full record, up to what the text of a
time does not tell, and what else it tells agrees with the record and with the rules.
-/

namespace Hazard

/-- The value that a way leads to. -/
def Value.at? : Value → List Place → Option Value
  | value, [] => some value
  | .map entries, .key name :: way => (find? (.str name) entries).bind fun value => value.at? way
  | .list items, .index (.ofNat place) :: way => items[place]?.bind fun value => value.at? way
  | _, _ => none

theorem Value.at?_nil (value : Value) : value.at? [] = some value := by
  cases value <;> rfl

theorem Value.at?_record (entries : List (String × Value)) (name : String) (way : List Place) :
    (record entries).at? (.key name :: way) =
      (entries.lookup name).bind fun value => value.at? way := by
  rw [← find?_record]
  rfl

theorem Value.at?_of_lookup {entries : List (String × Value)} {name : String} {value : Value}
    (found : entries.lookup name = some value) (way : List Place) :
    (record entries).at? (.key name :: way) = value.at? way := by
  rw [at?_record, found, Option.bind_some]

theorem Value.at?_list_zero (item : Value) (items : List Value) (way : List Place) :
    (Value.list (item :: items)).at? (.index 0 :: way) = item.at? way := rfl

namespace Report

open Json (HasForm CanShow)

/-- The entry of a log with such rules keeps the record and tells it as it is. -/
structure Describes (rules : List Value) (record : Record) (entry : Value) : Prop where
  /-- The record is read back from the entry, up to what the text of its time does not tell. -/
  properties : ∃ value, entry.at? [.key "properties"] = some value ∧ ∀ now,
    (Record.ofValue now value = .ok record ↔ record.detectedAt.WholeMinutes) ∧
    Record.ofValue now value =
      if record.detectedAt.Tellable then .ok record.told else .error [Record.untoldIssue]
  /-- The entry names the rule of the record's kind. -/
  ruleId : entry.at? [.key "ruleId"] = some (.str record.kind.name)
  /-- The entry tells the place of that rule among the rules. -/
  rule : ∃ (index : Nat) (rule : Value), entry.at? [.key "ruleIndex"] = some (.int index) ∧
    rules[index]? = some rule ∧ rule.at? [.key "id"] = some (.str record.kind.name)
  /-- The level stands for the severity of the record. -/
  level : entry.at? [.key "level"] = some (.str (sarifLevel record.severity))
  /-- The region has the columns that the record has. -/
  region : ∃ region,
    entry.at? [.key "locations", .index 0, .key "physicalLocation", .key "region"] = some region ∧
    region.at? [.key "startColumn"] = record.location.startColumn.map .int ∧
    region.at? [.key "endColumn"] = record.location.endColumn.map .int

/-! ## Entries -/

theorem getElem?_ruleIndex (kind : Kind) : Kind.all[ruleIndex kind]? = some kind := by
  cases kind <;> rfl

theorem at?_startColumn_sarifRegion (record : Record) :
    (sarifRegion record).at? [.key "startColumn"] = record.location.startColumn.map .int := by
  rw [sarifRegion, Value.at?_record]
  cases record.location.startColumn <;> cases record.location.endColumn <;> rfl

theorem at?_endColumn_sarifRegion (record : Record) :
    (sarifRegion record).at? [.key "endColumn"] = record.location.endColumn.map .int := by
  rw [sarifRegion, Value.at?_record]
  cases record.location.startColumn <;> cases record.location.endColumn <;> rfl

theorem at?_region_sarifResult (record : Record) :
    (sarifResult record).at?
        [.key "locations", .index 0, .key "physicalLocation", .key "region"] =
      some (sarifRegion record) := by
  refine (Value.at?_of_lookup rfl _).trans ((Value.at?_list_zero _ _ _).trans ?_)
  exact (Value.at?_of_lookup rfl _).trans ((Value.at?_of_lookup rfl _).trans (Value.at?_nil _))

theorem describes_sarifResult {record : Record} (valid : record.Valid) :
    Describes (Kind.all.map sarifRule) record (sarifResult record) where
  properties := ⟨record.toValue, Value.at?_of_lookup rfl [], fun now =>
    ⟨Record.ofValue_toValue_eq_ok_iff valid now, Record.ofValue_toValue valid now⟩⟩
  ruleId := Value.at?_of_lookup rfl []
  rule := by
    refine ⟨ruleIndex record.kind, sarifRule record.kind, Value.at?_of_lookup rfl [], ?_,
      Value.at?_of_lookup rfl []⟩
    rw [List.getElem?_map, getElem?_ruleIndex]
    rfl
  level := Value.at?_of_lookup rfl []
  region := ⟨sarifRegion record, at?_region_sarifResult record, at?_startColumn_sarifRegion record,
    at?_endColumn_sarifRegion record⟩

/-! ## The whole log -/

theorem at?_rules_sarifLog (records : List Record) :
    (sarifLog records).at? [.key "runs", .index 0, .key "tool", .key "driver", .key "rules"] =
      some (.list (Kind.all.map sarifRule)) := by
  refine (Value.at?_of_lookup rfl _).trans ((Value.at?_list_zero _ _ _).trans ?_)
  refine (Value.at?_of_lookup rfl _).trans ((Value.at?_of_lookup rfl _).trans ?_)
  exact (Value.at?_of_lookup rfl _).trans (Value.at?_nil _)

theorem at?_results_sarifLog (records : List Record) :
    (sarifLog records).at? [.key "runs", .index 0, .key "results"] =
      some (.list (records.map sarifResult)) := by
  refine (Value.at?_of_lookup rfl _).trans ((Value.at?_list_zero _ _ _).trans ?_)
  exact (Value.at?_of_lookup rfl _).trans (Value.at?_nil _)

theorem hasForm_sarifRule (kind : Kind) : (sarifRule kind).Regular HasForm := by
  simp [sarifRule, HasForm]

theorem hasForm_sarifRegion (record : Record) : (sarifRegion record).Regular HasForm := by
  cases startColumn : record.location.startColumn <;> cases endColumn : record.location.endColumn <;>
    simp [sarifRegion, sarifColumn, startColumn, endColumn, HasForm]

theorem hasForm_sarifResult {record : Record} (valid : record.Valid) :
    (sarifResult record).Regular HasForm := by
  simp [sarifResult, HasForm, hasForm_sarifRegion, Record.hasForm_toValue valid]

theorem hasForm_sarifLog {records : List Record} (valid : ∀ record ∈ records, record.Valid) :
    (sarifLog records).Regular HasForm := by
  have results : ∀ record ∈ records, (sarifResult record).Regular HasForm :=
    fun record mem => hasForm_sarifResult (valid record mem)
  simpa [sarifLog, HasForm, hasForm_sarifRule] using results

/-! ## Numbers with too many digits -/

/-- No number of the record has too many digits to be shown. -/
def Showable (record : Record) : Prop := ∀ n ∈ record.location.numbers, ¬ Numeral.IsOverlong n

instance (record : Record) : Decidable (Showable record) :=
  inferInstanceAs (Decidable (∀ n ∈ record.location.numbers, _))

theorem showable_iff {record : Record} :
    Showable record ↔
      CanShow (.int record.location.startLine) ∧ CanShow (.int record.location.endLine) ∧
      (∀ n ∈ record.location.startColumn, CanShow (.int n)) ∧
      ∀ n ∈ record.location.endColumn, CanShow (.int n) := by
  simp only [Json.canShow_int_iff]
  simp [Showable, Location.numbers, or_imp, forall_and]

theorem canShow_toValue_iff {record : Record} :
    record.toValue.Regular CanShow ↔ Showable record := by
  rw [Record.regular_toValue_iff CanShow rfl (fun _ => rfl) (fun _ => rfl) rfl,
    Location.regular_toValue_iff CanShow rfl fun _ => rfl, showable_iff]

theorem canShow_sarifRule (kind : Kind) : (sarifRule kind).Regular CanShow := by
  have str (text : String) : CanShow (.str text) := rfl
  simp [sarifRule, str]

theorem canShow_sarifRegion {record : Record} (showable : Showable record) :
    (sarifRegion record).Regular CanShow := by
  have str (text : String) : CanShow (.str text) := rfl
  obtain ⟨startLine, endLine, startShown, endShown⟩ := showable_iff.mp showable
  cases startColumn : record.location.startColumn <;> cases endColumn : record.location.endColumn <;>
    simp_all [sarifRegion, sarifColumn]

theorem canShow_ruleIndex (kind : Kind) : CanShow (.int (ruleIndex kind)) := by
  cases kind <;> rfl

theorem canShow_sarifResult_iff {record : Record} :
    (sarifResult record).Regular CanShow ↔ Showable record := by
  have str (text : String) : CanShow (.str text) := rfl
  have region : Showable record → (sarifRegion record).Regular CanShow := canShow_sarifRegion
  simpa [sarifResult, str, canShow_ruleIndex, canShow_toValue_iff] using region

theorem canShow_sarifLog_iff {records : List Record} :
    (sarifLog records).Regular CanShow ↔ ∀ record ∈ records, Showable record := by
  have str (text : String) : CanShow (.str text) := rfl
  simp [sarifLog, str, canShow_sarifRule, canShow_sarifResult_iff]

section

variable {records : List Record} (valid : ∀ record ∈ records, record.Valid)

include valid

theorem writeSarif_eq :
    writeSarif records =
      if ∀ record ∈ records, Showable record then
        some (Json.render Json.portable (sarifLog records))
      else none := by
  rw [writeSarif, Json.dump?]
  refine if_congr ?_ rfl rfl
  rw [Json.fits_iff (hasForm_sarifLog valid), canShow_sarifLog_iff]

theorem load_render_sarifLog (showable : ∀ record ∈ records, Showable record) {after : List Char}
    (blank : ∀ c ∈ after, Json.isSpace c) :
    Json.load ((Json.render Json.portable (sarifLog records)).toList ++ after) =
      .ok (sarifLog records) := by
  rw [Json.render, String.toList_ofList]
  exact Json.load_valueText (by decide) (hasForm_sarifLog valid)
    (canShow_sarifLog_iff.mpr showable) blank

end

end Report

end Hazard
