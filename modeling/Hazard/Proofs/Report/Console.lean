import Hazard.Proofs.Data.Grouping
import Hazard.Proofs.Number.Literal
import Hazard.Report.Console

/-!
# Findings on the console

The report for people shows the findings file by file.  Grouping by file is a stable partition of the
findings, however those of one file are scattered over the results.  So the report prints the lines of
every finding once, under the heading of its file, and the total that it prints is the number of findings
that it has printed.  A line is printed as it is, but for the sequences that control a terminal.
-/

namespace Hazard
namespace Report

open Grouping (withKey)

/-- The groups cut the records by their files.  Files stand in order of first appearance, and a group
has the records of its file in their order. -/
structure IsPartition (records : List Record) (groups : List (String × List Record)) : Prop where
  /-- No file has two groups. -/
  distinct : (groups.map (·.1)).Nodup
  /-- A file that is seen earlier stands earlier. -/
  firstSeen : (groups.map (·.1)).Pairwise fun earlier later =>
    (records.map Record.file).idxOf earlier < (records.map Record.file).idxOf later
  /-- Every record stands in the group of its file. -/
  placed : ∀ record ∈ records, ∃ group ∈ groups, group.1 = record.file ∧ record ∈ group.2
  /-- A group has records of its own file only. -/
  own : ∀ group ∈ groups, ∀ record ∈ group.2, record.file = group.1
  /-- No group is empty. -/
  nonempty : ∀ group ∈ groups, group.2 ≠ []
  /-- A group has the records of its file in their order. -/
  exact : ∀ group ∈ groups, group.2 = records.filter (·.file == group.1)
  /-- The groups together have every record once. -/
  perm : (groups.flatMap (·.2)).Perm records

/-- What is left of a text when the sequences that control a terminal are taken out: an escape, a
bracket, parameters, and a letter. -/
inductive Stripped : List Char → List Char → Prop
  | nil : Stripped [] []
  | control {parameters rest shown : List Char} {letter : Char}
      (parameter : ∀ c ∈ parameters, c.isDigit = true ∨ c = ';' ∨ c = '?')
      (isLetter : letter.isAlpha = true) (stripped : Stripped rest shown) :
      Stripped ('\x1b' :: '[' :: (parameters ++ letter :: rest)) shown
  | keep {c : Char} {rest shown : List Char}
      (other : ∀ (parameters after : List Char) (letter : Char),
        (∀ d ∈ parameters, d.isDigit = true ∨ d = ';' ∨ d = '?') → letter.isAlpha = true →
          c :: rest ≠ '\x1b' :: '[' :: (parameters ++ letter :: after))
      (stripped : Stripped rest shown) : Stripped (c :: rest) (c :: shown)

/-- The word for a severity in a report. -/
def severityWord : Severity → String
  | .critical => "CRITICAL"
  | .warning => "WARNING"
  | .info => "INFO"

/-- The lines that tell a record: its severity, its line and its description, the explanation, and the
suggestion if there is one. -/
def findingLines (record : Record) : List String :=
  ["  [" ++ severityWord record.severity ++ "] Line " ++ toString record.startLine ++ ": " ++
      record.description,
    "     " ++ record.explanation] ++
    (record.suggestion.toList.filter (· != "")).map ("     -> " ++ ·)

/-- A part of a report. -/
inductive Part where
  /-- The name of a file. -/
  | heading (file : String)
  /-- A finding. -/
  | finding (record : Record)
  /-- How many findings there are. -/
  | total (count : Nat)
  /-- How many findings there are of each severity. -/
  | table (summary : Summary)

namespace Part

/-- What is printed for a part, in the given space. -/
def text (space : Nat) : Part → String
  | .heading file =>
    line ("\n" ++ file) ++ line (String.ofList (List.replicate file.length '='))
  | .finding record => String.join ((findingLines record).map line)
  | .total count =>
    line ("\n" ++ String.ofList (List.replicate 50 '=')) ++
      line ("Summary: " ++ toString count ++ " pattern(s) found")
  | .table summary => summaryTable space summary

/-- The file of a heading. -/
def heading? : Part → Option String
  | .heading file => some file
  | _ => none

/-- The record of a finding. -/
def finding? : Part → Option Record
  | .finding record => some record
  | _ => none

/-- The number that a total tells. -/
def total? : Part → Option Nat
  | .total count => some count
  | _ => none

end Part

/-- Every finding stands under a heading with its file, where the last heading before the parts is
given. -/
def UnderOwnHeading : Option String → List Part → Prop
  | _, [] => True
  | _, .heading file :: rest => UnderOwnHeading (some file) rest
  | current, .finding record :: rest => current = some record.file ∧ UnderOwnHeading current rest
  | current, .total _ :: rest => UnderOwnHeading current rest
  | current, .table _ :: rest => UnderOwnHeading current rest

/-- The parts print each of the records once, under the only heading of its file, and tell once how
many records they print. -/
structure Prints (parts : List Part) (records : List Record) : Prop where
  /-- Every record is a finding once. -/
  once : (parts.filterMap Part.finding?).Perm records
  /-- Findings stand under the headings of their files. -/
  ownHeading : UnderOwnHeading none parts
  /-- No file has two headings. -/
  headings : (parts.filterMap Part.heading?).Nodup
  /-- One total is told, the number of findings. -/
  total : parts.filterMap Part.total? = [(parts.filterMap Part.finding?).length]

/-! ## Lines -/

theorem exists_of_afterControl? {text rest : List Char} (found : afterControl? text = some rest) :
    ∃ parameters letter, text = parameters ++ letter :: rest ∧
      (∀ c ∈ parameters, c.isDigit = true ∨ c = ';' ∨ c = '?') ∧ letter.isAlpha = true := by
  have front : ∀ c ∈ text.takeWhile fun c => c.isDigit || c == ';' || c == '?',
      c.isDigit = true ∨ c = ';' ∨ c = '?' := by
    intro c member
    simpa [or_assoc] using List.mem_takeWhile_imp member
  have whole := List.takeWhile_append_dropWhile (p := fun c => c.isDigit || c == ';' || c == '?')
    (l := text)
  rw [afterControl?] at found
  split at found
  · rename_i letter after back
    split at found
    · rename_i alpha
      obtain rfl := Option.some.inj found
      rw [back] at whole
      exact ⟨_, letter, whole.symm, front, alpha⟩
    · contradiction
  · contradiction

theorem isDigit_eq_false_of_isAlpha {letter : Char} (isLetter : letter.isAlpha = true) :
    letter.isDigit = false := by
  have letters : (decide (letter.val ≥ 65 ∧ letter.val ≤ 90) ||
      (decide (letter.val ≥ 97) && decide (letter.val ≤ 122))) = true := isLetter
  have digits : letter.isDigit = (decide (letter.val ≥ 48) && decide (letter.val ≤ 57)) := rfl
  simp only [Bool.or_eq_true, Bool.and_eq_true, decide_eq_true_eq, ge_iff_le,
    UInt32.le_iff_toNat_le] at letters
  simp only [digits, Bool.and_eq_false_iff, decide_eq_false_iff_not, ge_iff_le,
    UInt32.le_iff_toNat_le]
  simp at letters ⊢
  omega

/-- What does not match the form of a control sequence is none. -/
theorem afterControl?_ne_none {parameters rest : List Char} {letter : Char}
    (parameter : ∀ c ∈ parameters, c.isDigit = true ∨ c = ';' ∨ c = '?')
    (isLetter : letter.isAlpha = true) : afterControl? (parameters ++ letter :: rest) ≠ none := by
  have inside : ∀ c ∈ parameters, (c.isDigit || c == ';' || c == '?') = true := by
    intro c member
    simpa [or_assoc] using parameter c member
  have outside : (letter.isDigit || letter == ';' || letter == '?') = false := by
    rw [Bool.eq_false_iff]
    intro test
    rcases (by simpa [or_assoc] using test : letter.isDigit = true ∨ letter = ';' ∨ letter = '?')
      with test | rfl | rfl
    · rw [isDigit_eq_false_of_isAlpha isLetter] at test
      contradiction
    · exact absurd isLetter (by decide)
    · exact absurd isLetter (by decide)
  rw [afterControl?, List.dropWhile_append_of_pos inside, List.dropWhile_cons_of_neg (by simp [outside])]
  simp [isLetter]

theorem stripped_withoutControls {steps : Nat} {text : List Char} (enough : text.length ≤ steps) :
    Stripped text (withoutControls steps text) := by
  induction steps generalizing text with
  | zero =>
      obtain rfl := List.length_eq_zero_iff.mp (Nat.le_zero.mp enough)
      exact .nil
  | succ steps ih =>
      rw [withoutControls.eq_def]
      split
      · rename_i absurd_steps
        contradiction
      · rename_i more rest same
        obtain rfl := Nat.succ.inj same
        simp only [List.length_cons] at enough
        cases found : afterControl? rest with
        | some after =>
            obtain ⟨parameters, letter, rfl, parameter, isLetter⟩ := exists_of_afterControl? found
            simp only [List.length_append, List.length_cons] at enough
            exact .control parameter isLetter (ih (by omega))
        | none =>
            refine .keep ?_ (ih (by simp only [List.length_cons]; omega))
            intro parameters after letter parameter isLetter same
            rw [(List.cons.inj (List.cons.inj same).2).2] at found
            exact absurd found (afterControl?_ne_none parameter isLetter)
      · rename_i more c rest plain same
        obtain rfl := Nat.succ.inj same
        refine .keep ?_ (ih (by simp only [List.length_cons] at enough; omega))
        intro parameters after letter _ _ same
        obtain ⟨rfl, rfl⟩ := List.cons.inj same
        exact plain _ rfl rfl
      · exact .nil

/-- A line is the text without control sequences, and a line end. -/
theorem line_eq (text : String) :
    ∃ shown, Stripped text.toList shown ∧ line text = String.ofList shown ++ "\n" :=
  ⟨_, stripped_withoutControls (Nat.le_of_eq String.length_toList), rfl⟩

theorem shownSeverity_eq (severity : Severity) : shownSeverity severity = severityWord severity := by
  cases severity <;> decide +kernel

theorem showInt?_natCast (n : Nat) :
    Numeral.showInt? n = if Numeral.IsOverlong n then none else some (toString n) := by
  by_cases long : Numeral.IsOverlong n
  · rw [if_pos long, Numeral.showInt?_eq_none_iff.mpr long]
  · have short : ¬ Numeral.digitLimit < (Nat.toDigits 10 (n : Int).natAbs).length := long
    rw [if_neg long, Numeral.showInt?, if_neg short, if_neg (by omega)]
    rfl

/-- The lines of a record are printed unless the number of its line is too long. -/
theorem recordLines_eq (space : Nat) (record : Record) :
    recordLines record =
      if Numeral.IsOverlong record.startLine then none
      else some (Part.text space (.finding record)) := by
  rw [recordLines, showInt?_natCast]
  split
  · rfl
  · rw [Part.text, findingLines, ← shownSeverity_eq]
    cases advice : record.suggestion with
    | none => simp [String.append_assoc]
    | some suggestion =>
        by_cases empty : suggestion = ""
        · simp [empty, String.append_assoc]
        · simp [empty, String.append_assoc]

/-! ## Groups -/

theorem addToGroup_eq (record : Record) (groups : List (String × List Record)) :
    addToGroup record groups = Grouping.enter record.file [record] (· ++ [record]) groups := by
  induction groups with
  | nil => rfl
  | cons group groups ih => rw [addToGroup, Grouping.enter, ih]

/-- Put into groups one by one, the records of each file keep their order. -/
theorem groupByFile_eq (records : List Record) :
    groupByFile records = (records.map Record.file).eraseDups.map fun file =>
      (file, withKey Record.file records file) := by
  rw [← Grouping.foldl_enter Grouping.accumulates_self, groupByFile]
  simp only [addToGroup_eq]

theorem files_groupByFile (records : List Record) :
    (groupByFile records).map (·.1) = (records.map Record.file).eraseDups := by
  rw [groupByFile_eq, List.map_map]
  exact List.map_id' _

theorem mem_groupByFile_iff {records : List Record} {group : String × List Record} :
    group ∈ groupByFile records ↔
      group.1 ∈ records.map Record.file ∧ group.2 = withKey Record.file records group.1 := by
  obtain ⟨file, members⟩ := group
  rw [groupByFile_eq, List.mem_map]
  simp only [List.mem_eraseDups, Prod.mk.injEq]
  constructor
  · rintro ⟨_, seen, rfl, rfl⟩
    exact ⟨seen, rfl⟩
  · rintro ⟨seen, rfl⟩
    exact ⟨file, seen, rfl, rfl⟩

theorem groupByFile_perm (records : List Record) :
    ((groupByFile records).flatMap (·.2)).Perm records := by
  rw [groupByFile_eq, List.flatMap_map]
  exact Grouping.flatMap_eraseDups_perm Record.file records

theorem file_of_mem_group {records : List Record} {group : String × List Record}
    (listed : group ∈ groupByFile records) {record : Record} (member : record ∈ group.2) :
    record.file = group.1 := by
  rw [(mem_groupByFile_iff.mp listed).2, Grouping.mem_withKey_iff] at member
  exact member.2

theorem isPartition_groupByFile (records : List Record) :
    IsPartition records (groupByFile records) where
  distinct := files_groupByFile records ▸ Grouping.nodup_eraseDups _
  firstSeen := files_groupByFile records ▸ Grouping.pairwise_eraseDups _
  placed record member := by
    refine ⟨(record.file, withKey Record.file records record.file), ?_, rfl, ?_⟩
    · exact mem_groupByFile_iff.mpr ⟨List.mem_map_of_mem member, rfl⟩
    · exact Grouping.mem_withKey_iff.mpr ⟨member, rfl⟩
  own _ listed _ := file_of_mem_group listed
  nonempty group listed := by
    obtain ⟨seen, members⟩ := mem_groupByFile_iff.mp listed
    rw [members]
    exact Grouping.withKey_ne_nil seen
  exact _ listed := (mem_groupByFile_iff.mp listed).2
  perm := groupByFile_perm records

/-! ## Parts of a report -/

/-- The parts about a file. -/
def groupParts (group : String × List Record) : List Part :=
  .heading group.1 :: group.2.map .finding

/-- The parts of a report of results. -/
def parts (results : List Result) : List Part :=
  (groupByFile (Result.allRecords results)).flatMap groupParts ++
    [.total (Summary.ofResults results).totalRecords, .table (Summary.ofResults results)]

theorem join_map_flatMap {α : Type} (items : List α) (part : α → List Part) (space : Nat) :
    String.join ((items.flatMap part).map (Part.text space)) =
      String.join (items.map fun item => String.join ((part item).map (Part.text space))) := by
  induction items with
  | nil => rfl
  | cons item items ih =>
      rw [List.flatMap_cons, List.map_append, String.join_append, ih, List.map_cons,
        String.join_cons]

theorem mapM_ite {α β : Type} {p : α → Prop} [DecidablePred p] {f : α → Option β} {g : α → β}
    {items : List α} (each : ∀ item ∈ items, f item = if p item then none else some (g item)) :
    items.mapM f = if ∃ item ∈ items, p item then none else some (items.map g) := by
  induction items with
  | nil => rfl
  | cons item items ih =>
      obtain ⟨first, others⟩ := List.forall_mem_cons.mp each
      rw [List.mapM_cons, first, ih others]
      by_cases here : p item
      · simp [here]
      · by_cases there : ∃ item ∈ items, p item
        · simp [here, there]
        · simp [here, there]

theorem groupLines_eq (space : Nat) (group : String × List Record) :
    groupLines group.1 group.2 =
      if ∃ record ∈ group.2, Numeral.IsOverlong record.startLine then none
      else some (String.join ((groupParts group).map (Part.text space))) := by
  rw [groupLines, mapM_ite fun record _ => recordLines_eq space record]
  split
  · rfl
  · rw [groupParts, List.map_cons, String.join_cons, List.map_map, Part.text]
    simp only [Function.comp_def, Option.bind_eq_bind, Option.bind_some, Option.pure_def]

/-- The report is written unless the number of some line is too long, and then from its parts. -/
theorem writeConsole_eq (space : Nat) (results : List Result) :
    writeConsole space results =
      if ∃ record ∈ Result.allRecords results, Numeral.IsOverlong record.startLine then none
      else some (String.join ((parts results).map (Part.text space))) := by
  have grouped : (∃ group ∈ groupByFile (Result.allRecords results),
      ∃ record ∈ group.2, Numeral.IsOverlong record.startLine) ↔
        ∃ record ∈ Result.allRecords results, Numeral.IsOverlong record.startLine := by
    simp only [← (groupByFile_perm (Result.allRecords results)).mem_iff, List.mem_flatMap]
    constructor
    · rintro ⟨group, listed, record, member, long⟩
      exact ⟨record, ⟨group, listed, member⟩, long⟩
    · rintro ⟨record, ⟨group, listed, member⟩, long⟩
      exact ⟨group, listed, record, member, long⟩
  rw [writeConsole, mapM_ite fun group _ => groupLines_eq space group]
  simp only [grouped]
  split
  · rfl
  · rw [parts, List.map_append, String.join_append, join_map_flatMap]
    simp only [List.map_cons, List.map_nil, String.join_cons, String.join_nil, Part.text,
      String.append_empty, ← String.append_assoc]
    rfl

theorem findings_groupParts (group : String × List Record) :
    (groupParts group).filterMap Part.finding? = group.2 := by
  rw [groupParts, List.filterMap_cons_none rfl, List.filterMap_map]
  exact List.filterMap_some

theorem headings_groupParts (group : String × List Record) :
    (groupParts group).filterMap Part.heading? = [group.1] := by
  have none : (group.2.map Part.finding).filterMap Part.heading? = [] := by
    rw [List.filterMap_map]
    exact List.filterMap_eq_nil_iff.mpr fun _ _ => rfl
  exact congrArg (group.1 :: ·) none

theorem totals_groupParts (group : String × List Record) :
    (groupParts group).filterMap Part.total? = [] := by
  rw [groupParts, List.filterMap_cons_none rfl, List.filterMap_map]
  exact List.filterMap_eq_nil_iff.mpr fun _ _ => rfl

theorem findings_parts (results : List Result) :
    (parts results).filterMap Part.finding? =
      (groupByFile (Result.allRecords results)).flatMap (·.2) := by
  rw [parts, List.filterMap_append, List.filterMap_flatMap]
  simp only [findings_groupParts]
  exact List.append_nil _

/-- Findings of one file may follow its heading, and whatever stands well after it. -/
theorem underOwnHeading_findings {file : String} {records : List Record}
    (own : ∀ record ∈ records, record.file = file) {rest : List Part}
    (after : UnderOwnHeading (some file) rest) :
    UnderOwnHeading (some file) (records.map .finding ++ rest) := by
  induction records with
  | nil => exact after
  | cons record records ih =>
      obtain ⟨first, others⟩ := List.forall_mem_cons.mp own
      exact ⟨congrArg some first.symm, ih others⟩

theorem underOwnHeading_groups {groups : List (String × List Record)}
    (own : ∀ group ∈ groups, ∀ record ∈ group.2, record.file = group.1) {rest : List Part}
    (after : ∀ current, UnderOwnHeading current rest) (current : Option String) :
    UnderOwnHeading current (groups.flatMap groupParts ++ rest) := by
  induction groups generalizing current with
  | nil => exact after current
  | cons group groups ih =>
      obtain ⟨first, others⟩ := List.forall_mem_cons.mp own
      rw [List.flatMap_cons, List.append_assoc]
      exact underOwnHeading_findings first (ih others (some group.1))

/-- The end of a report has no findings. -/
theorem underOwnHeading_end {count : Nat} {summary : Summary} (current : Option String) :
    UnderOwnHeading current [.total count, .table summary] := trivial

theorem prints_parts (results : List Result) : Prints (parts results) (Result.allRecords results) where
  once := by
    rw [findings_parts]
    exact groupByFile_perm _
  ownHeading :=
    underOwnHeading_groups (fun _ listed _ => file_of_mem_group listed) underOwnHeading_end none
  headings := by
    rw [parts, List.filterMap_append, List.filterMap_flatMap]
    simp only [headings_groupParts, ← List.map_eq_flatMap]
    rw [files_groupByFile]
    exact (List.append_nil _).symm ▸ Grouping.nodup_eraseDups _
  total := by
    rw [findings_parts, (groupByFile_perm _).length_eq, parts, List.filterMap_append,
      List.filterMap_flatMap]
    have none : ((groupByFile (Result.allRecords results)).flatMap fun group =>
        (groupParts group).filterMap Part.total?) = [] :=
      List.flatMap_eq_nil_iff.mpr fun group _ => totals_groupParts group
    rw [none]
    rfl

/-- A warning with a suggestion. -/
def adviceRecord : Record :=
  { id := "a", kind := .magicNumber, severity := .warning, location := ⟨"f.js", 3, 3, none, none⟩
    description := "Magic number 42", explanation := "It has no name.", codeSnippet := "42"
    suggestion := some "Name it.", confidence := .zero, autoFixAvailable := false
    detectorId := "code_quality", detectedAt := ⟨2024, 1, 2, 3, 4, 5, 0, none⟩ }

end Report
end Hazard
