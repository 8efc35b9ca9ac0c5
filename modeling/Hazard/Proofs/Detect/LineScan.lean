import Hazard.Proofs.Detect.Extension
import Mathlib.Data.List.Forall2

/-!
# Credentials found line by line

A line gets one record if a pattern fits it and it does not refer to the environment, and no record
otherwise.  The record marks the leftmost fit of the first pattern that fits, the built-in patterns
before those of the configuration.  A file that is exempt has no records about credentials; all its
other records are those of the same file under any other name.
-/

namespace Hazard

/-- The record without its marks and its file. -/
def Record.unplaced (record : Record) : Record :=
  { record.unmarked with location := { record.location with file := "" } }

namespace Secret

open Regex

/-- The records about lines: of those about credentials, the ones that tell columns. -/
def lineRecords (records : List Record) : List Record :=
  (records.filter (·.kind == .hardcodedSecret)).filter Record.hasColumns

/-- The records that are not about credentials. -/
def otherRecords (records : List Record) : List Record :=
  records.filter (·.kind != .hardcodedSecret)

/-- A pattern fits the line, which does not refer to the environment. -/
def Discloses (patterns : List Regex) (line : List Char) : Prop :=
  (∃ pattern ∈ patterns, pattern.FitsIn line) ∧ ¬ environmentReference.FitsIn line

/-- The record marks, on the line with the number, the leftmost fit of the first pattern that fits. -/
structure MarksFirstFit (patterns : List Regex) (number : Nat) (line : List Char)
    (record : Record) : Prop where
  /-- The record starts on the line. -/
  startLine : record.location.startLine = number
  /-- The record ends on the line. -/
  endLine : record.location.endLine = number
  /-- The columns are those of the leftmost fit of the first pattern that fits. -/
  columns : ∃ earlier pattern later start stop, patterns = earlier ++ pattern :: later ∧
    (∀ other ∈ earlier, ¬ other.FitsIn line) ∧ pattern.Leftmost line start stop ∧
      record.location.startColumn = some (start + 1 : Nat) ∧
        record.location.endColumn = some (stop + 1 : Nat)

/-- The records are about the lines that disclose something, one about each and in order. -/
structure ScansLines (source : Source) (patterns : List Regex) (records : List Record) : Prop where
  /-- The records stand in the order of their lines, at most one for each. -/
  increasing : records.Pairwise fun first second => first.startLine < second.startLine
  /-- A line is reported exactly if it discloses something. -/
  reported : ∀ (index : Nat) (line : List Char), source.lines[index]? = some line →
    ((∃ record ∈ records, record.startLine = index + 1) ↔ Discloses patterns line)
  /-- Every record marks the first fit on its line. -/
  marks : ∀ record ∈ records, ∃ (index : Nat) (line : List Char),
    source.lines[index]? = some line ∧ MarksFirstFit patterns (index + 1) line record

/-! ## One line -/

section

variable {patterns : List Regex} {line : List Char}

theorem inLine?_isSome_iff : (inLine? line patterns).isSome = true ↔ Discloses patterns line := by
  rw [inLine?, Discloses]
  by_cases refers : environmentReference.occursIn line = true
  · simp [← occursIn_iff_fitsIn, refers]
  · rw [if_neg refers, ← occursIn_iff_fitsIn, and_iff_left refers, List.findSome?_isSome_iff]
    simp only [← occursIn_iff_fitsIn]
    rfl

theorem marksFirstFit_lineDraft {found : Match} (number : Nat)
    (searched : inLine? line patterns = some found) (id path : String) (stamp : Stamp) :
    MarksFirstFit patterns number line
      ((lineDraft line patterns number found).toRecord id path stamp) where
  startLine := rfl
  endLine := rfl
  columns := by
    rw [inLine?] at searched
    split at searched
    · contradiction
    · obtain ⟨earlier, pattern, later, split, fit, missed⟩ := List.findSome?_eq_some_iff.mp searched
      exact ⟨earlier, pattern, later, found.start, found.stop, split,
        fun other member => search_eq_none_iff.mp (missed other member), leftmost_of_search fit,
        rfl, rfl⟩

end

/-! ## All lines -/

theorem pairwise_inLines (source : Source) (patterns : List Regex) :
    (inLines source patterns).Pairwise fun first second => first.startLine < second.startLine := by
  have regions := lineRegions_pairwise source.lines source.path patterns
  rw [← map_location_inLines source "", List.pairwise_map] at regions
  exact regions

theorem exists_of_mem_forall₂ {α β : Type} {related : α → β → Prop} {first : List α}
    {second : List β} {item : α} (all : List.Forall₂ related first second) (member : item ∈ first) :
    ∃ other ∈ second, related item other := by
  induction all with
  | nil => contradiction
  | cons head _ ih =>
      rcases List.mem_cons.mp member with rfl | member
      · exact ⟨_, List.mem_cons_self, head⟩
      · obtain ⟨other, member, holds⟩ := ih member
        exact ⟨other, List.mem_cons_of_mem _ member, holds⟩

/-- The records of a file that is not exempt, as far as they are about lines. -/
theorem forall₂_lineRecords {stamps : Nat → Stamp} {vocabulary : Vocabulary} {source : Source}
    {records : List Record} (searched : isExempt source.path = false)
    (examined : (Detector.security stamps).examine vocabulary (.ok source) = .ok records) :
    List.Forall₂ (fun record draft => ∃ stamp, record = draft.toRecord "security" source.path stamp)
      (lineRecords records) (inLines source (vocabulary.secretPatterns.map (·.regex))) := by
  obtain ⟨drafts, checked, marked⟩ := Detector.forall₂_of_examine .hardcodedSecret examined
  obtain rfl := Detector.eq_append_of_securityCheck checked
  have columns := filter_columns_ofKind vocabulary source
  rw [if_neg (ne_true_of_eq_false searched)] at columns
  rw [← columns]
  exact Detector.forall₂_filter marked fun _ _ => Option.isSome_map

theorem scansLines_of_forall₂ {source : Source} {patterns : List Regex} {records : List Record}
    (marked : List.Forall₂
      (fun record draft => ∃ stamp, record = draft.toRecord "security" source.path stamp)
      records (inLines source patterns)) :
    ScansLines source patterns records := by
  have lines : records.map Record.startLine = (inLines source patterns).map Draft.startLine :=
    Detector.map_eq_of_forall₂ marked fun _ _ => rfl
  refine ⟨?_, fun index line line_eq => ?_, fun record member => ?_⟩
  · rw [← List.pairwise_map, lines, List.pairwise_map]
    exact pairwise_inLines source patterns
  · rw [← inLine?_isSome_iff, ← List.mem_map, lines, List.mem_map, Option.isSome_iff_exists]
    constructor
    · rintro ⟨draft, member, same⟩
      obtain ⟨other, line', line_eq', found, searched, rfl⟩ := mem_inLines_iff.mp member
      obtain rfl := Nat.succ.inj same
      rw [line_eq] at line_eq'
      obtain rfl := Option.some.inj line_eq'
      exact ⟨found, searched⟩
    · rintro ⟨found, searched⟩
      exact ⟨_, mem_inLines_iff.mpr ⟨index, line, line_eq, found, searched, rfl⟩, rfl⟩
  · obtain ⟨draft, drafted, stamp, rfl⟩ := exists_of_mem_forall₂ marked member
    obtain ⟨index, line, line_eq, found, searched, rfl⟩ := mem_inLines_iff.mp drafted
    exact ⟨index, line, line_eq, marksFirstFit_lineDraft _ searched _ _ _⟩

/-! ## Other records and exempt files -/

section

variable {stamps : Nat → Stamp} {vocabulary : Vocabulary} {source : Source} {records : List Record}

theorem kind_ne_of_exempt (exempt : isExempt source.path = true)
    (examined : (Detector.security stamps).examine vocabulary (.ok source) = .ok records) :
    ∀ record ∈ records, record.kind ≠ .hardcodedSecret := by
  intro record member
  obtain ⟨drafts, checked, rfl⟩ := Detector.exists_draft_of_examine examined
  obtain rfl := Detector.eq_append_of_securityCheck checked
  obtain ⟨draft, drafted, stamp, rfl⟩ :=
    exists_of_mem_forall₂ (Detector.forall₂_marked _ _ _ _) member
  rw [check, if_pos exempt, List.nil_append] at drafted
  exact kind_ne_of_mem_injection drafted

/-- Without their marks and files, the other records do not depend on the path. -/
theorem map_unplaced_otherRecords
    (examined : (Detector.security stamps).examine vocabulary (.ok source) = .ok records) :
    (otherRecords records).map Record.unplaced =
      (Injection.check source).map (Draft.told "security" "") := by
  obtain ⟨drafts, checked, rfl⟩ := Detector.exists_draft_of_examine examined
  obtain rfl := Detector.eq_append_of_securityCheck checked
  have marked := Detector.forall₂_marked "security" source.path stamps
    (check vocabulary source ++ Injection.check source)
  have others : List.Forall₂ _ (otherRecords _) _ :=
    Detector.forall₂_filter marked fun draft _ =>
      (rfl : _ = (draft.kind != Kind.hardcodedSecret))
  have own : (check vocabulary source).filter (·.kind != .hardcodedSecret) = [] := by
    rw [List.filter_eq_nil_iff]
    intro draft member
    simp [kind_of_mem_check member]
  have rest : (Injection.check source).filter (·.kind != .hardcodedSecret) =
      Injection.check source := by
    rw [List.filter_eq_self]
    intro draft member
    simp [kind_ne_of_mem_injection member]
  rw [List.filter_append, own, rest, List.nil_append] at others
  exact Detector.map_eq_of_forall₂ others fun _ _ => rfl

end

/-- Of a file that is not exempt, the lines that disclose something have one record each, which
marks the leftmost fit of the first pattern that fits.  An exempt file has no record about
credentials, and the other records are the same whatever the path is. -/
theorem lineScan_exact {extensions : Extensions} {vocabulary : Vocabulary}
    (extended : Vocabulary.extend extensions = .ok vocabulary) (stamps : Nat → Stamp)
    (source : Source) :
    ∃ records, (Detector.security stamps).examine vocabulary (.ok source) = .ok records ∧
      (isExempt source.path = false →
        ScansLines source
          ((SecretPattern.builtin ++
            extensions.secretPatterns.filterMap Vocabulary.readable?).map (·.regex))
          (lineRecords records)) ∧
      (isExempt source.path = true → ∀ record ∈ records, record.kind ≠ .hardcodedSecret) ∧
      ∀ (stamps' : Nat → Stamp) (path : String), ∃ records',
        (Detector.security stamps').examine vocabulary (.ok { source with path := path }) =
            .ok records' ∧
          (otherRecords records).map Record.unplaced =
            (otherRecords records').map Record.unplaced := by
  have examined (stamps : Nat → Stamp) (source : Source) :=
    Detector.security_examine stamps vocabulary source
  refine ⟨_, examined stamps source, fun searched => ?_, fun exempt => ?_,
    fun stamps' path => ⟨_, examined stamps' { source with path := path }, ?_⟩⟩
  · rw [← (Vocabulary.extends_of_extend extended).secretPatterns]
    exact scansLines_of_forall₂ (forall₂_lineRecords searched (examined stamps source))
  · exact kind_ne_of_exempt exempt (examined stamps source)
  · rw [map_unplaced_otherRecords (examined stamps source),
      map_unplaced_otherRecords (examined stamps' { source with path := path })]
    rfl

/-- A pattern that cannot be read, and one for keys. -/
def brokenAndKey : Extensions := { secretPatterns := ["sk-(", "sk-[a-z]+"] }

/-- A line for a built-in pattern, one for the pattern for keys, and one that takes its token from
the environment. -/
def threeLines : Source where
  path := "src/a.js"
  grammar := .javascript
  text := "token='a'\nsk-b\ntoken='a'+process.env.B".toList
  tree := .node ⟨0, "program", "", true, ⟨0, 39⟩⟩ []

/-- The second line is reported and the third is not; in a test file there is no report. -/
theorem lineScan_exact_threeLines :
    Vocabulary.extend brokenAndKey = .ok (Detector.vocabularyOf brokenAndKey) ∧
      (∃ records, (Detector.security Detector.fixedStamps).examine
          (Detector.vocabularyOf brokenAndKey) (.ok threeLines) = .ok records ∧
        (∃ record ∈ lineRecords records, record.startLine = 2) ∧
          ¬ ∃ record ∈ lineRecords records, record.startLine = 3) ∧
      ∃ records, (Detector.security Detector.fixedStamps).examine
          (Detector.vocabularyOf brokenAndKey)
          (.ok { threeLines with path := "src/a.test.js" }) = .ok records ∧
        ∀ record ∈ records, record.kind ≠ .hardcodedSecret := by
  have extended : Vocabulary.extend brokenAndKey = .ok (Detector.vocabularyOf brokenAndKey) := by
    decide +kernel
  refine ⟨extended, ?_, ?_⟩
  · obtain ⟨records, examined, scans, -⟩ :=
      lineScan_exact extended Detector.fixedStamps threeLines
    have scanned := scans (by decide +kernel)
    rw [← (Vocabulary.extends_of_extend extended).secretPatterns] at scanned
    refine ⟨records, examined, ?_, fun third => ?_⟩
    · exact (scanned.reported 1 "sk-b".toList (by decide +kernel)).mpr
        (inLine?_isSome_iff.mp (by decide +kernel))
    · have discloses :=
        (scanned.reported 2 "token='a'+process.env.B".toList (by decide +kernel)).mp third
      exact absurd (inLine?_isSome_iff.mpr discloses) (by decide +kernel)
  · obtain ⟨records, examined, -, exempt, -⟩ := lineScan_exact extended Detector.fixedStamps
      { threeLines with path := "src/a.test.js" }
    exact ⟨records, examined, exempt (by decide +kernel)⟩

end Secret
end Hazard
