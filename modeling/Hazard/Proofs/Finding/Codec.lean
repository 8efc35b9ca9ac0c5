import Hazard.Finding.Codec
import Hazard.Proofs.Data.Parts
import Hazard.Proofs.Finding.Calendar

/-!
# Records as values

A valid record is read back from its value, which JSON can hold, up to what the text of its time does not
tell.  Whatever record is read from a value that JSON can hold is valid, and its value tells all of it.
-/

namespace Hazard

open Json (HasForm IsShort isShort_int_iff)

/-! ## Locations -/

namespace Location

/-- Lines are counted from one. -/
structure Valid (location : Location) : Prop where
  /-- The first line is the first of the file or a later one. -/
  startLine : 1 ≤ location.startLine
  /-- So is the last line. -/
  endLine : 1 ≤ location.endLine

/-- The numbers of a location. -/
def numbers (location : Location) : List Int :=
  [(location.startLine : Int), (location.endLine : Int)] ++ location.startColumn.toList ++
    location.endColumn.toList

/-- No number of the location is too long to be read. -/
def Legible (location : Location) : Prop :=
  ∀ n ∈ location.numbers, (Json.integer n).length ≤ Numeral.digitLimit

instance (location : Location) : Decidable location.Legible :=
  inferInstanceAs (Decidable (∀ n ∈ location.numbers, _ ≤ _))

theorem legible_iff {location : Location} :
    location.Legible ↔
      IsShort (.int location.startLine) ∧ IsShort (.int location.endLine) ∧
      (∀ n ∈ location.startColumn, IsShort (.int n)) ∧
      ∀ n ∈ location.endColumn, IsShort (.int n) := by
  simp only [isShort_int_iff]
  simp [Legible, numbers, or_imp, forall_and]

theorem ofValue_map_eq_ok_iff {entries : List (Scalar × Value)} {location : Location} :
    ofValue (.map entries) = .ok location ↔
      Read.field ["file"] Read.string none entries = .ok location.file ∧
      Read.field ["start_line"] readLine none entries = .ok location.startLine ∧
      Read.field ["end_line"] readLine none entries = .ok location.endLine ∧
      Read.field ["start_column"] (Read.optional Read.int) (some none) entries =
        .ok location.startColumn ∧
      Read.field ["end_column"] (Read.optional Read.int) (some none) entries =
        .ok location.endColumn := by
  constructor
  · intro read
    simp only [ofValue, Checked.both_eq_ok_iff] at read
    obtain ⟨_, _, read, endColumn, rfl⟩ := read
    obtain ⟨_, _, read, startColumn, rfl⟩ := read
    obtain ⟨_, _, read, endLine, rfl⟩ := read
    obtain ⟨_, _, read, startLine, rfl⟩ := read
    obtain ⟨_, _, read, file, rfl⟩ := read
    obtain rfl := Except.ok.inj read
    exact ⟨file, startLine, endLine, startColumn, endColumn⟩
  · rintro ⟨file, startLine, endLine, startColumn, endColumn⟩
    rw [ofValue, file, startLine, endLine, startColumn, endColumn]
    rfl

theorem readLine_int {n : Nat} (pos : 1 ≤ n) : readLine (.int n) = .ok n := by
  have least : (1 : Int) ≤ n := by omega
  simp [readLine, Read.int, least]

theorem optional_int_columnValue (column : Option Int) :
    Read.optional Read.int (columnValue column) = .ok column := by
  cases column <;> rfl

theorem ofValue_toValue {location : Location} (valid : location.Valid) :
    ofValue location.toValue = .ok location :=
  ofValue_map_eq_ok_iff.mpr
    ⟨Read.field_of_lookup rfl rfl, Read.field_of_lookup rfl (readLine_int valid.startLine),
      Read.field_of_lookup rfl (readLine_int valid.endLine),
      Read.field_of_lookup rfl (optional_int_columnValue _),
      Read.field_of_lookup rfl (optional_int_columnValue _)⟩

theorem regular_columnValue_iff {condition : Scalar → Prop} (null : condition .null)
    (column : Option Int) :
    (columnValue column).Regular condition ↔ ∀ n ∈ column, condition (.int n) := by
  cases column with
  | none => simpa [columnValue, Value.ofOption] using null
  | some n => simp [columnValue, Value.ofOption]

theorem regular_toValue_iff (condition : Scalar → Prop) (null : condition .null)
    (str : ∀ text, condition (.str text)) (location : Location) :
    location.toValue.Regular condition ↔
      condition (.int location.startLine) ∧ condition (.int location.endLine) ∧
      (∀ n ∈ location.startColumn, condition (.int n)) ∧
      ∀ n ∈ location.endColumn, condition (.int n) := by
  simp [toValue, str, regular_columnValue_iff null]

theorem eq_of_readLine {value : Value} {n : Nat} (read : readLine value = .ok n) :
    Read.int value = .ok n ∧ 1 ≤ n := by
  rw [readLine] at read
  split at read
  · rename_i m int_eq
    split at read
    · rename_i pos
      obtain rfl := Except.ok.inj read
      rw [int_eq, Int.toNat_of_nonneg (by omega)]
      exact ⟨rfl, by omega⟩
    · contradiction
  · contradiction

section

variable {entries : List (Scalar × Value)}

theorem of_field_readLine {name : String} {n : Nat} (regular : (Value.map entries).Regular IsShort)
    (read : Read.field [name] readLine none entries = .ok n) : 1 ≤ n ∧ IsShort (.int n) := by
  rcases Read.exists_of_field regular read with ⟨value, short, read⟩ | absent
  · obtain ⟨int_eq, pos⟩ := eq_of_readLine read
    exact ⟨pos, Read.isShort_of_int short int_eq⟩
  · contradiction

theorem isShort_of_field_column {name : String} {column : Option Int}
    (regular : (Value.map entries).Regular IsShort)
    (read : Read.field [name] (Read.optional Read.int) (some none) entries = .ok column) :
    ∀ n ∈ column, IsShort (.int n) := by
  rintro n rfl
  rcases Read.exists_of_field regular read with ⟨value, short, read⟩ | absent
  · exact Read.isShort_of_int short (Read.of_optional_some read)
  · exact nomatch Option.some.inj absent

/-- A location that is read is valid and can be written and read again. -/
theorem valid_of_ofValue {value : Value} {location : Location} (regular : value.Regular IsShort)
    (read : ofValue value = .ok location) : location.Valid ∧ location.Legible := by
  cases value with
  | scalar | list => contradiction
  | map entries =>
      obtain ⟨-, startLine, endLine, startColumn, endColumn⟩ := ofValue_map_eq_ok_iff.mp read
      obtain ⟨start_pos, start_short⟩ := of_field_readLine regular startLine
      obtain ⟨end_pos, end_short⟩ := of_field_readLine regular endLine
      exact ⟨⟨start_pos, end_pos⟩, legible_iff.mpr ⟨start_short, end_short,
        isShort_of_field_column regular startColumn, isShort_of_field_column regular endColumn⟩⟩

end

end Location

/-! ## Records -/

theorem Kind.named_name (kind : Kind) : Read.named ofName? (.str kind.name) = .ok kind := by
  cases kind <;> rfl

theorem Severity.named_name (severity : Severity) :
    Read.named ofName? (.str severity.name) = .ok severity := by
  cases severity <;> rfl

namespace Record

/-- A confidence is a number of 64 bits from zero to one. -/
structure IsConfidence (x : Binary64) : Prop where
  /-- The number is in its one form. -/
  canonical : x.IsCanonical
  /-- The number is at most one. -/
  le_one : x.leInt 1
  /-- The number is not negative. -/
  nonneg : x.geInt 0

/-- What records satisfy: lines are counted from one, the confidence is one, and the time exists. -/
structure Valid (record : Record) : Prop where
  /-- The lines are counted from one. -/
  location : record.location.Valid
  /-- The confidence is from zero to one. -/
  confidence : IsConfidence record.confidence
  /-- The time exists. -/
  detectedAt : record.detectedAt.Valid

/-- The record with what the text of its time tells. -/
def told (record : Record) : Record := { record with detectedAt := record.detectedAt.told }

theorem told_eq_self_iff {record : Record} : record.told = record ↔ record.detectedAt.WholeMinutes := by
  rw [← Timestamp.told_eq_self_iff]
  constructor
  · intro same
    exact congrArg detectedAt same
  · intro same
    rw [told, same]

/-- Once all other fields are read, the time decides. -/
theorem ofValue_map_eq {now : Timestamp} {entries : List (Scalar × Value)} {record : Record}
    (id : Read.field ["id"] Read.string none entries = .ok record.id)
    (kind : Read.field ["type"] (Read.named Kind.ofName?) none entries = .ok record.kind)
    (severity : Read.field ["severity"] (Read.named Severity.ofName?) none entries =
      .ok record.severity)
    (location : Read.field ["location"] Location.ofValue none entries = .ok record.location)
    (description : Read.field ["description"] Read.string none entries = .ok record.description)
    (explanation : Read.field ["explanation"] Read.string none entries = .ok record.explanation)
    (codeSnippet : Read.field ["code_snippet"] Read.string none entries = .ok record.codeSnippet)
    (suggestion : Read.field ["suggestion"] (Read.optional Read.string) (some none) entries =
      .ok record.suggestion)
    (confidence : Read.field ["confidence"] readConfidence (some usualConfidence) entries =
      .ok record.confidence)
    (autoFixAvailable : Read.field ["auto_fix_available"] Read.bool (some false) entries =
      .ok record.autoFixAvailable)
    (detectorId : Read.field ["detector_id"] Read.string none entries = .ok record.detectorId) :
    ofValue now (.map entries) =
      (Read.field ["detected_at"] Timestamp.ofValue (some now) entries).map
        fun time => { record with detectedAt := time } := by
  rw [ofValue, id, kind, severity, location, description, explanation, codeSnippet, suggestion,
    confidence, autoFixAvailable, detectorId]
  cases Read.field ["detected_at"] Timestamp.ofValue (some now) entries <;> rfl

theorem ofValue_map_eq_ok_iff {now : Timestamp} {entries : List (Scalar × Value)} {record : Record} :
    ofValue now (.map entries) = .ok record ↔
      Read.field ["id"] Read.string none entries = .ok record.id ∧
      Read.field ["type"] (Read.named Kind.ofName?) none entries = .ok record.kind ∧
      Read.field ["severity"] (Read.named Severity.ofName?) none entries = .ok record.severity ∧
      Read.field ["location"] Location.ofValue none entries = .ok record.location ∧
      Read.field ["description"] Read.string none entries = .ok record.description ∧
      Read.field ["explanation"] Read.string none entries = .ok record.explanation ∧
      Read.field ["code_snippet"] Read.string none entries = .ok record.codeSnippet ∧
      Read.field ["suggestion"] (Read.optional Read.string) (some none) entries =
        .ok record.suggestion ∧
      Read.field ["confidence"] readConfidence (some usualConfidence) entries =
        .ok record.confidence ∧
      Read.field ["auto_fix_available"] Read.bool (some false) entries =
        .ok record.autoFixAvailable ∧
      Read.field ["detector_id"] Read.string none entries = .ok record.detectorId ∧
      Read.field ["detected_at"] Timestamp.ofValue (some now) entries = .ok record.detectedAt := by
  constructor
  · intro read
    simp only [ofValue, Checked.both_eq_ok_iff] at read
    obtain ⟨_, _, read, detectedAt, rfl⟩ := read
    obtain ⟨_, _, read, detectorId, rfl⟩ := read
    obtain ⟨_, _, read, autoFixAvailable, rfl⟩ := read
    obtain ⟨_, _, read, confidence, rfl⟩ := read
    obtain ⟨_, _, read, suggestion, rfl⟩ := read
    obtain ⟨_, _, read, codeSnippet, rfl⟩ := read
    obtain ⟨_, _, read, explanation, rfl⟩ := read
    obtain ⟨_, _, read, description, rfl⟩ := read
    obtain ⟨_, _, read, location, rfl⟩ := read
    obtain ⟨_, _, read, severity, rfl⟩ := read
    obtain ⟨_, _, read, kind, rfl⟩ := read
    obtain ⟨_, _, read, id, rfl⟩ := read
    obtain rfl := Except.ok.inj read
    exact ⟨id, kind, severity, location, description, explanation, codeSnippet, suggestion,
      confidence, autoFixAvailable, detectorId, detectedAt⟩
  · rintro ⟨id, kind, severity, location, description, explanation, codeSnippet, suggestion,
      confidence, autoFixAvailable, detectorId, detectedAt⟩
    rw [ofValue_map_eq id kind severity location description explanation codeSnippet suggestion
      confidence autoFixAvailable detectorId, detectedAt]
    rfl

theorem optional_string_ofOption (text : Option String) :
    Read.optional Read.string (Value.ofOption .str text) = .ok text := by
  cases text <;> rfl

theorem readConfidence_float {x : Binary64} (valid : IsConfidence x) :
    readConfidence (.float x) = .ok x := by
  simp [readConfidence, Read.float, valid.le_one, valid.nonneg]

theorem ofValue_toText {t : Timestamp} (valid : t.Valid) :
    Timestamp.ofValue (.str (String.ofList t.toText)) =
      if t.Tellable then .ok t.told else Checked.issue .datetimeFromDateParsing := by
  split_ifs with tellable
  · simp [Timestamp.ofValue, Read.text?, Timestamp.ofText?_toText valid tellable]
  · simp [Timestamp.ofValue, Read.text?, Timestamp.ofText?_toText_eq_none valid tellable]

/-- All that can be wrong with the value of a valid record is the text of its time. -/
theorem ofValue_toValue_eq_map {record : Record} (valid : record.Valid) (now : Timestamp) :
    ofValue now record.toValue =
      ((Timestamp.ofValue (.str (String.ofList record.detectedAt.toText))).within
        (.key "detected_at")).map fun time => { record with detectedAt := time } := by
  refine (ofValue_map_eq (Read.field_of_lookup rfl rfl)
    (Read.field_of_lookup rfl (Kind.named_name _)) (Read.field_of_lookup rfl (Severity.named_name _))
    (Read.field_of_lookup rfl (Location.ofValue_toValue valid.location))
    (Read.field_of_lookup rfl rfl) (Read.field_of_lookup rfl rfl) (Read.field_of_lookup rfl rfl)
    (Read.field_of_lookup rfl (optional_string_ofOption _))
    (Read.field_of_lookup rfl (readConfidence_float valid.confidence))
    (Read.field_of_lookup rfl rfl) (Read.field_of_lookup rfl rfl)).trans ?_
  exact congrArg _ (Read.field_eq_of_lookup rfl)

/-- What is wrong with the value of a record whose time cannot be told. -/
def untoldIssue : Issue := ⟨[.key "detected_at"], .datetimeFromDateParsing⟩

/-- What a record is read as from its value. -/
theorem ofValue_toValue {record : Record} (valid : record.Valid) (now : Timestamp) :
    ofValue now record.toValue =
      if record.detectedAt.Tellable then .ok record.told else .error [untoldIssue] := by
  rw [ofValue_toValue_eq_map valid, ofValue_toText valid.detectedAt]
  split <;> rfl

/-- A record is read back from its value if and only if the text of its time tells all of it. -/
theorem ofValue_toValue_eq_ok_iff {record : Record} (valid : record.Valid) (now : Timestamp) :
    ofValue now record.toValue = .ok record ↔ record.detectedAt.WholeMinutes := by
  rw [ofValue_toValue valid]
  constructor
  · intro read
    split at read
    · exact told_eq_self_iff.mp (Except.ok.inj read)
    · contradiction
  · intro whole
    rw [if_pos (whole.tellable valid.detectedAt), told_eq_self_iff.mpr whole]

theorem regular_toValue_iff (condition : Scalar → Prop) (null : condition .null)
    (bool : ∀ value, condition (.bool value)) (str : ∀ text, condition (.str text))
    {record : Record} (confidence : condition (.float record.confidence)) :
    record.toValue.Regular condition ↔ record.location.toValue.Regular condition := by
  have suggestion : (Value.ofOption .str record.suggestion).Regular condition := by
    cases record.suggestion with
    | none => exact .scalar null
    | some text => exact .scalar (str text)
  simp [toValue, bool, str, confidence, suggestion]

/-- The value of a record can be written. -/
theorem hasForm_toValue {record : Record} (valid : record.Valid) :
    record.toValue.Regular HasForm := by
  rw [regular_toValue_iff HasForm trivial (fun _ => trivial) (fun _ => trivial)
    valid.confidence.canonical, Location.regular_toValue_iff HasForm trivial fun _ => trivial]
  exact ⟨trivial, trivial, fun _ _ => trivial, fun _ _ => trivial⟩

theorem isShort_toValue_iff {record : Record} :
    record.toValue.Regular IsShort ↔ record.location.Legible := by
  rw [regular_toValue_iff IsShort rfl (fun _ => rfl) (fun _ => rfl) rfl,
    Location.regular_toValue_iff IsShort rfl fun _ => rfl, Location.legible_iff]

theorem isConfidence_of_readConfidence {value : Value} {x : Binary64}
    (regular : value.Regular HasForm) (read : readConfidence value = .ok x) : IsConfidence x := by
  rw [readConfidence] at read
  split at read
  · rename_i y float_eq
    split at read
    · contradiction
    · rename_i le_one
      split at read
      · contradiction
      · rename_i nonneg
        obtain rfl := Except.ok.inj read
        exact ⟨Read.isCanonical_of_float regular float_eq, by simpa using le_one,
          by simpa using nonneg⟩
  · contradiction

theorem isConfidence_usualConfidence : IsConfidence usualConfidence where
  canonical := by
    rw [usualConfidence, Draft.percent]
    exact Binary64.ofDecimal_isCanonical _ _ _
  le_one := by decide +kernel
  nonneg := by decide +kernel

/-- The record can be written and read again: its numbers are not too long, and its time is told. -/
structure Repeatable (record : Record) : Prop where
  /-- No number of the location is too long to be read. -/
  location : record.location.Legible
  /-- The offset of the time is one of whole minutes. -/
  detectedAt : record.detectedAt.WholeMinutes

instance (record : Record) : Decidable record.Repeatable :=
  decidable_of_iff (record.location.Legible ∧ record.detectedAt.WholeMinutes)
    ⟨fun both => ⟨both.1, both.2⟩, fun repeatable => ⟨repeatable.location, repeatable.detectedAt⟩⟩

/-- A record that is read is valid and can be written and read again. -/
theorem valid_of_ofValue {now : Timestamp} (now_valid : now.Valid) (now_whole : now.WholeMinutes)
    {value : Value} {record : Record} (hasForm : value.Regular HasForm)
    (short : value.Regular IsShort) (read : ofValue now value = .ok record) :
    record.Valid ∧ record.Repeatable := by
  cases value with
  | scalar | list => contradiction
  | map entries =>
      obtain ⟨-, -, -, location, -, -, -, -, confidence, -, -, detectedAt⟩ :=
        ofValue_map_eq_ok_iff.mp read
      have location_valid : record.location.Valid ∧ record.location.Legible := by
        rcases Read.exists_of_field short location with ⟨_, short, read⟩ | absent
        · exact Location.valid_of_ofValue short read
        · contradiction
      have confidence_valid : IsConfidence record.confidence := by
        rcases Read.exists_of_field hasForm confidence with ⟨_, hasForm, read⟩ | absent
        · exact isConfidence_of_readConfidence hasForm read
        · rw [← Option.some.inj absent]
          exact isConfidence_usualConfidence
      have time_valid : record.detectedAt.Valid ∧ record.detectedAt.WholeMinutes := by
        rcases Read.exists_of_field hasForm detectedAt with ⟨_, -, read⟩ | absent
        · exact Timestamp.valid_of_ofValue read
        · rw [← Option.some.inj absent]
          exact ⟨now_valid, now_whole⟩
      exact ⟨⟨location_valid.1, confidence_valid, time_valid.1⟩, location_valid.2, time_valid.2⟩

end Record

end Hazard
