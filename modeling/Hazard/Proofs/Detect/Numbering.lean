import Hazard.Proofs.Detect.CommentedCode
import Hazard.Proofs.Text.LineNumbers

/-!
# Scans and nodes number the same lines

Scans of the lines number them by their index, and a node has the number of line feeds before its
offset.  Both count from one, and each number belongs to one stretch between line feeds: a scan reads
what is shown of it, and the nodes with that number lie on it.
-/

namespace Hazard
namespace Source

open Text

variable {source : Source}

/-- The findings of the scans bear the number of the line that was read, counted from one. -/
structure NumbersScans (source : Source) : Prop where
  /-- The line that is read under an index is the one that is shown under that number. -/
  lines : ∀ number line, source.lines[number]? = some line ↔ Shows source.text number line
  /-- The reminders are those of the lines that are shown, with their numbers. -/
  reminders : ∀ draft, draft ∈ Remark.reminders source ↔
    ∃ number line, Shows source.text number line ∧ draft.startLine = number + 1 ∧
      draft.endLine = number + 1 ∧ Remark.reminder? (number + 1) line = some draft
  /-- The secrets are those of the lines that are shown, with their numbers. -/
  secrets : ∀ patterns draft, draft ∈ Secret.inLines source patterns ↔
    ∃ number line, Shows source.text number line ∧ draft.startLine = number + 1 ∧
      draft.endLine = number + 1 ∧
        ∃ found, Secret.inLine? line patterns = some found ∧
          Secret.lineDraft line patterns (number + 1) found = draft
  /-- The lines of a run are shown under its numbers, one after another. -/
  runs : ∀ run ∈ Remark.runsFrom 1 source.lines, ∀ index line, run.lines[index]? = some line →
    ∃ number, run.start + index = number + 1 ∧ Shows source.text number line

/-- A node whose ends divide no character starts and stops on the lines with its numbers, counted from
one. -/
structure NumbersNodes (source : Source) : Prop where
  /-- A node starts on the line with its first number. -/
  starts : ∀ (site : Site) (number : Nat), IsBoundary (encode source.text) site.span.start →
    (source.startLine site = number + 1 ↔ LiesOn source.text number site.span.start)
  /-- A node stops on the line with its last number. -/
  stops : ∀ (site : Site) (number : Nat), IsBoundary (encode source.text) site.span.stop →
    (source.endLine site = number + 1 ↔ LiesOn source.text number site.span.stop)

theorem lines_of_reminder? {number : Nat} {line : List Char} {draft : Draft}
    (found : Remark.reminder? number line = some draft) :
    draft.startLine = number ∧ draft.endLine = number := by
  rw [Remark.reminder?] at found
  split at found
  · contradiction
  · split at found
    · contradiction
    · obtain rfl := Option.some.inj found
      exact ⟨rfl, rfl⟩

/-- A line of a run has the number of the run's first line and as many more as lines stand before. -/
theorem exists_shows_of_run {run : Remark.Run} (member : run ∈ Remark.runsFrom 1 source.lines)
    {index : Nat} {line : List Char} (held : run.lines[index]? = some line) :
    ∃ number, run.start + index = number + 1 ∧ Shows source.text number line := by
  have separates := Remark.separates_runsFrom 1 source.lines
  have positive := (separates.placed run member).1
  obtain ⟨later, drop_eq⟩ := separates.taken run member
  obtain ⟨index_lt, -⟩ := List.getElem?_eq_some_iff.mp held
  have found : (source.lines.drop (run.start - 1))[index]? = some line := by
    rw [← drop_eq, List.getElem?_append_left index_lt, held]
  rw [List.getElem?_drop] at found
  exact ⟨run.start - 1 + index, by omega, getElem?_lines_iff.mp found⟩

theorem numbersScans (source : Source) : NumbersScans source where
  lines _ _ := getElem?_lines_iff
  reminders draft := by
    rw [Remark.reminders, mem_filterMap_mapIdx]
    simp only [Source.lines, getElem?_lines_iff]
    constructor
    · rintro ⟨number, line, shows, found⟩
      have numbers := lines_of_reminder? found
      exact ⟨number, line, shows, numbers.1, numbers.2, found⟩
    · rintro ⟨number, line, shows, -, -, found⟩
      exact ⟨number, line, shows, found⟩
  secrets patterns draft := by
    rw [Secret.mem_inLines_iff]
    simp only [Source.lines, getElem?_lines_iff]
    constructor
    · rintro ⟨number, line, shows, found, searched, rfl⟩
      exact ⟨number, line, shows, rfl, rfl, found, searched, rfl⟩
    · rintro ⟨number, line, shows, -, -, found, searched, rfl⟩
      exact ⟨number, line, shows, found, searched, rfl⟩
  runs _ member _ _ := exists_shows_of_run member

theorem numbersNodes (source : Source) : NumbersNodes source where
  starts site number boundary := by
    rw [startLine, Nat.add_right_cancel_iff, row_eq_iff_liesOn boundary]
  stops site number boundary := by
    rw [endLine, Nat.add_right_cancel_iff, row_eq_iff_liesOn boundary]

/-- An offset that divides no character has an exact place on a line.  The numbers of the scans and of
the nodes denote the same lines, since a number has one line. -/
theorem places_on_lines (source : Source) :
    (∀ offset, IsBoundary (encode source.text) offset →
      ∃ front head tail rear, IsPlaced source.text offset front head tail rear) ∧
    NumbersScans source ∧ NumbersNodes source ∧
    ∀ number front stretch rear front' stretch' rear',
      IsLine source.text number front stretch rear →
      IsLine source.text number front' stretch' rear' →
        front = front' ∧ stretch = stretch' ∧ rear = rear' :=
  ⟨fun _ => exists_isPlaced, numbersScans source, numbersNodes source,
    fun _ _ _ _ _ _ _ => IsLine.unique⟩

/-- Three lines: one that ends in both characters, one that starts with a carriage return, and one of
which a character has four octets. -/
def mixedLines : Source where
  path := "src/a.js"
  grammar := .javascript
  text := ['é', '\r', '\n', '\r', '日', '\n', '😀', 'x']
  tree := .node ⟨0, "program", "", true, ⟨3, 13⟩⟩ []

theorem places_on_lines_mixedLines :
    (∃ front head tail rear, IsPlaced mixedLines.text 3 front head tail rear) ∧
      Shows mixedLines.text 0 ['é'] ∧ Shows mixedLines.text 1 ['\r', '日'] ∧
      LiesOn mixedLines.text 0 3 ∧ LiesOn mixedLines.text 2 13 ∧
      mixedLines.startColumn mixedLines.root = 2 ∧ mixedLines.endColumn mixedLines.root = 2 := by
  obtain ⟨placed, scans, numbers, -⟩ := places_on_lines mixedLines
  have start : IsBoundary (encode mixedLines.text) 3 := by
    refine isBoundary_encode_iff.mpr ⟨['é', '\r'], ['\n', '\r', '日', '\n', '😀', 'x'], rfl, ?_⟩
    rw [length_encode]
    rfl
  have stop : IsBoundary (encode mixedLines.text) 13 := by
    refine isBoundary_encode_iff.mpr ⟨['é', '\r', '\n', '\r', '日', '\n', '😀'], ['x'], rfl, ?_⟩
    rw [length_encode]
    rfl
  exact ⟨placed 3 start, (scans.lines 0 ['é']).mp rfl, (scans.lines 1 ['\r', '日']).mp rfl,
    (numbers.starts mixedLines.root 0 start).mp rfl, (numbers.stops mixedLines.root 2 stop).mp rfl,
    rfl, rfl⟩

end Source
end Hazard
