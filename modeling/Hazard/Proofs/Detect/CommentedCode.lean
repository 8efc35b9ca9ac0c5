import Hazard.Proofs.Detect.Extension
import Mathlib.Data.List.Pairwise

/-!
# Runs of commented code

The findings about commented code are the longest blocks of neighbouring lines that look like code, if
they have three lines or more.  Reading the lines from the last to the first, a line that looks like
code either joins the run that starts right after it or begins a run of its own, and at each line the
runs cover exactly the lines that look like code, with a gap between any two.  Such runs are the
longest blocks.
-/

namespace Hazard
namespace Remark

/-- The line with the number looks like code, where lines are numbered from `number` on. -/
def CodeAt (number : Nat) (lines : List (List Char)) (n : Nat) : Prop :=
  ∃ index line, lines[index]? = some line ∧ n = number + index ∧ isCommentedCode line = true

/-- The numbers from the first to the last are in the set, and the two around them are not. -/
structure IsBlock (code : Nat → Prop) (first last : Nat) : Prop where
  /-- The last number is not before the first. -/
  ordered : first ≤ last
  /-- All numbers from the first to the last are in the set. -/
  all : ∀ n, first ≤ n → n ≤ last → code n
  /-- The number before the first is not. -/
  before : ∀ n, n + 1 = first → ¬ code n
  /-- The number after the last is not. -/
  after : ¬ code (last + 1)

/-! ## Intervals -/

section

variable {code : Nat → Prop} {blocks : List (Nat × Nat)} {first last : Nat}

/-- Intervals with gaps between them that cover a set are its longest blocks. -/
theorem mem_iff_isBlock (ordered : ∀ block ∈ blocks, block.1 ≤ block.2)
    (apart : blocks.Pairwise fun earlier later => earlier.2 + 1 < later.1)
    (covers : ∀ n, code n ↔ ∃ block ∈ blocks, block.1 ≤ n ∧ n ≤ block.2) :
    (first, last) ∈ blocks ↔ IsBlock code first last := by
  have gap {a b : Nat × Nat} (mem : a ∈ blocks) (mem' : b ∈ blocks) (differ : a ≠ b) :
      a.2 + 1 < b.1 ∨ b.2 + 1 < a.1 := by
    have : Std.Symm fun a b : Nat × Nat => a.2 + 1 < b.1 ∨ b.2 + 1 < a.1 := ⟨fun _ _ => Or.symm⟩
    have either : blocks.Pairwise fun a b => a.2 + 1 < b.1 ∨ b.2 + 1 < a.1 := apart.imp .inl
    exact either.forall mem mem' differ
  constructor
  · intro member
    -- Another interval with a number next to this one would leave no gap.
    have outside {n : Nat} (next : n + 1 = first ∨ n = last + 1) : ¬ code n := by
      intro inside
      obtain ⟨block, member', low, high⟩ := (covers n).mp inside
      have forward := ordered _ member
      have differ : block ≠ (first, last) := by
        rintro rfl
        simp only at forward low high
        omega
      have apart := gap member' member differ
      simp only at apart forward
      omega
    refine ⟨ordered _ member, fun n low high => (covers n).mpr ⟨_, member, low, high⟩,
      fun n next => outside (.inl next), outside (.inr rfl)⟩
  · intro block
    have forward := block.ordered
    obtain ⟨found, member, low, high⟩ := (covers first).mp (block.all first le_rfl forward)
    have same_first : found.1 = first := by
      by_contra differ
      refine block.before (first - 1) (by omega) ((covers _).mpr ⟨found, member, ?_, ?_⟩)
      all_goals omega
    have not_less : ¬ last < found.2 := fun less =>
      block.after ((covers _).mpr ⟨found, member, by omega, by omega⟩)
    have not_more : ¬ found.2 < last := by
      intro less
      obtain ⟨next, member', low', high'⟩ :=
        (covers _).mp (block.all (found.2 + 1) (by omega) (by omega))
      have differ : next ≠ found := by
        rintro rfl
        omega
      have apart := gap member' member differ
      omega
    have same : found = (first, last) := Prod.ext same_first (by simp only; omega)
    exact same ▸ member

/-- A longest block holds what lies next to one of its numbers. -/
theorem IsBlock.includes {low high n : Nat} (block : IsBlock code first last)
    (all : ∀ m, low ≤ m → m ≤ high → code m) (inside : first ≤ n ∧ n ≤ last)
    (between : low ≤ n ∧ n ≤ high) : first ≤ low ∧ high ≤ last := by
  constructor
  · by_contra less
    exact block.before (first - 1) (by omega) (all _ (by omega) (by omega))
  · by_contra more
    exact block.after (all _ (by omega) (by omega))

end

/-! ## Runs -/

section

variable {number : Nat} {line : List Char} {lines : List (List Char)} {runs : List Run}

theorem not_codeAt_nil (n : Nat) : ¬ CodeAt number [] n := by
  rintro ⟨index, line, found, -⟩
  simp at found

theorem codeAt_cons_iff {n : Nat} :
    CodeAt number (line :: lines) n ↔
      (n = number ∧ isCommentedCode line = true) ∨ CodeAt (number + 1) lines n := by
  constructor
  · rintro ⟨index, other, found, rfl, code⟩
    cases index with
    | zero =>
        obtain rfl := Option.some.inj found
        exact .inl ⟨rfl, code⟩
    | succ index => exact .inr ⟨index, other, found, by omega, code⟩
  · rintro (⟨rfl, code⟩ | ⟨index, other, found, rfl, code⟩)
    · exact ⟨0, line, rfl, rfl, code⟩
    · exact ⟨index + 1, other, found, by omega, code⟩

/-- The runs cover the lines that look like code, with a gap between any two, and hold them. -/
structure Separates (number : Nat) (lines : List (List Char)) (runs : List Run) : Prop where
  /-- No run starts before the first line, and none is empty. -/
  placed : ∀ run ∈ runs, number ≤ run.start ∧ 0 < run.lines.length
  /-- A line looks like code exactly if a run has it. -/
  covers : ∀ n, CodeAt number lines n ↔
    ∃ run ∈ runs, run.start ≤ n ∧ n < run.start + run.lines.length
  /-- The runs are in order, and a line lies between any two. -/
  apart : runs.Pairwise fun earlier later => earlier.start + earlier.lines.length < later.start
  /-- A run holds the lines from its first number on. -/
  taken : ∀ run ∈ runs, run.lines <+: lines.drop (run.start - number)

theorem separates_nil : Separates number [] [] where
  placed := List.forall_mem_nil _
  covers n := by simp [not_codeAt_nil]
  apart := .nil
  taken := List.forall_mem_nil _

namespace Separates

/-- Runs of the later lines, seen one line earlier. -/
theorem placed_taken_cons (rest : Separates (number + 1) lines runs) {run : Run}
    (member : run ∈ runs) :
    number + 1 ≤ run.start ∧ 0 < run.lines.length ∧
      run.lines <+: (line :: lines).drop (run.start - number) := by
  obtain ⟨placed, positive⟩ := rest.placed run member
  have taken := rest.taken run member
  have shift : run.start - number = run.start - (number + 1) + 1 := by omega
  rw [shift, List.drop_succ_cons]
  exact ⟨placed, positive, taken⟩

/-- A line that does not look like code changes nothing. -/
theorem skip (rest : Separates (number + 1) lines runs) (plain : isCommentedCode line = false) :
    Separates number (line :: lines) runs where
  placed run member := by
    have := rest.placed run member
    omega
  covers n := by
    rw [codeAt_cons_iff, plain, ← rest.covers]
    simp
  apart := rest.apart
  taken run member := (rest.placed_taken_cons member).2.2

/-- A line that looks like code begins a run if no run starts right after it. -/
theorem begins (rest : Separates (number + 1) lines runs) (code : isCommentedCode line = true)
    (later : ∀ run ∈ runs, number + 1 < run.start) :
    Separates number (line :: lines) (⟨number, [line]⟩ :: runs) where
  placed := by
    rw [List.forall_mem_cons]
    refine ⟨⟨le_rfl, Nat.one_pos⟩, fun run member => ?_⟩
    have := rest.placed run member
    omega
  covers n := by
    rw [codeAt_cons_iff, rest.covers]
    simp only [code, and_true, List.mem_cons, exists_eq_or_imp, List.length_cons, List.length_nil]
    refine or_congr_left ?_
    omega
  apart := List.pairwise_cons.mpr ⟨later, rest.apart⟩
  taken := by
    rw [List.forall_mem_cons]
    refine ⟨?_, fun run member => (rest.placed_taken_cons member).2.2⟩
    simp

/-- A line that looks like code joins the run that starts right after it. -/
theorem joins {run : Run} (rest : Separates (number + 1) lines (run :: runs))
    (code : isCommentedCode line = true) (next : run.start = number + 1) :
    Separates number (line :: lines) (⟨number, line :: run.lines⟩ :: runs) where
  placed := by
    rw [List.forall_mem_cons]
    refine ⟨⟨le_rfl, Nat.succ_pos _⟩, fun other member => ?_⟩
    have := rest.placed other (List.mem_cons_of_mem run member)
    omega
  covers n := by
    have positive := (rest.placed run List.mem_cons_self).2
    rw [codeAt_cons_iff, rest.covers]
    simp only [code, and_true, List.mem_cons, exists_eq_or_imp, List.length_cons, ← or_assoc]
    refine or_congr_left ?_
    omega
  apart := by
    obtain ⟨first, others⟩ := List.pairwise_cons.mp rest.apart
    refine List.pairwise_cons.mpr ⟨fun other member => ?_, others⟩
    have gap := first other member
    simp only [List.length_cons]
    omega
  taken := by
    rw [List.forall_mem_cons]
    refine ⟨?_, fun other member =>
      (rest.placed_taken_cons (List.mem_cons_of_mem run member)).2.2⟩
    have taken := rest.taken run List.mem_cons_self
    rw [next, Nat.sub_self] at taken
    rw [Nat.sub_self]
    exact List.cons_prefix_cons.mpr ⟨rfl, taken⟩

end Separates

theorem separates_runsFrom (number : Nat) (lines : List (List Char)) :
    Separates number lines (runsFrom number lines) := by
  induction lines generalizing number with
  | nil => exact separates_nil
  | cons line lines ih =>
      have rest := ih (number + 1)
      rw [runsFrom]
      cases code : isCommentedCode line with
      | false => exact rest.skip code
      | true =>
          rw [if_pos rfl]
          split
          · rename_i run more runs_eq
            rw [runs_eq] at rest ⊢
            split
            · rename_i next
              exact rest.joins code (beq_iff_eq.mp next)
            · rename_i other
              refine rest.begins code fun later member => ?_
              have placed := (rest.placed run List.mem_cons_self).1
              have apart : number + 1 < run.start := by
                rw [beq_iff_eq] at other
                omega
              rcases List.mem_cons.mp member with rfl | member
              · exact apart
              · have gap := (List.pairwise_cons.mp rest.apart).1 later member
                omega
          · rename_i runs_eq
            rw [runs_eq] at rest
            exact rest.begins code (List.forall_mem_nil _)

end

/-! ## Findings -/

theorem join_eq_intercalate (separator : List Char) (parts : List (List Char)) :
    Text.join separator parts = separator.intercalate parts := by
  induction parts with
  | nil => rfl
  | cons part parts ih =>
      cases parts with
      | nil => simp [Text.join]
      | cons next parts =>
          rw [Text.join, ih, List.intercalate_cons_cons]
          simp

/-- The record is about the lines from the first to the last: it tells how many they are and shows
the first three of them. -/
structure IsBlockRecord (source : Source) (record : Record) (block : Nat × Nat) : Prop where
  file : record.file = source.path
  startLine : record.location.startLine = block.1
  endLine : record.location.endLine = block.2
  description : record.description =
    toString (block.2 - block.1 + 1) ++ " lines of commented-out code"
  codeSnippet : record.codeSnippet.toList =
    ['\n'].intercalate (((source.lines.drop (block.1 - 1)).take 3).map Text.strip) ++
      if 3 < block.2 - block.1 + 1 then "\n// ...".toList else []

/-- The first and the last line of a run. -/
def Run.bounds (run : Run) : Nat × Nat := (run.start, run.stop)

/-- The blocks that are reported. -/
def reportedBlocks (source : Source) : List (Nat × Nat) :=
  ((runsFrom 1 source.lines).filter fun run => leastRun ≤ run.lines.length).map Run.bounds

namespace Separates

variable {lines : List (List Char)} {runs : List Run} (separates : Separates 1 lines runs)

include separates

theorem stop_add_one {run : Run} (member : run ∈ runs) :
    run.start ≤ run.stop ∧ run.stop + 1 = run.start + run.lines.length := by
  have positive := (separates.placed run member).2
  rw [Run.stop]
  omega

theorem pairwise_bounds :
    (runs.map Run.bounds).Pairwise fun earlier later => earlier.2 + 1 < later.1 := by
  rw [List.pairwise_map]
  refine separates.apart.imp_of_mem fun member _ gap => ?_
  rw [Run.bounds, Run.bounds, (separates.stop_add_one member).2]
  exact gap

theorem codeAt_iff {n : Nat} :
    CodeAt 1 lines n ↔ ∃ block ∈ runs.map Run.bounds, block.1 ≤ n ∧ n ≤ block.2 := by
  simp only [separates.covers, List.mem_map, exists_exists_and_eq_and]
  refine exists_congr fun run => and_congr_right fun member => ?_
  have stop := separates.stop_add_one member
  simp only [Run.bounds]
  omega

theorem mem_bounds_iff {first last : Nat} :
    (first, last) ∈ runs.map Run.bounds ↔ IsBlock (CodeAt 1 lines) first last := by
  refine mem_iff_isBlock ?_ separates.pairwise_bounds fun n => separates.codeAt_iff
  rw [List.forall_mem_map]
  exact fun run member => (separates.stop_add_one member).1

end Separates

theorem mem_longRuns_iff {runs : List Run} {run : Run} :
    run ∈ runs.filter (fun run => leastRun ≤ run.lines.length) ↔
      run ∈ runs ∧ 3 ≤ run.lines.length := by
  rw [List.mem_filter, decide_eq_true_iff]
  rfl

/-- The record of a run of three lines or more is about the lines of the run. -/
theorem isBlockRecord_runDraft {source : Source} {run : Run}
    (member : run ∈ runsFrom 1 source.lines) (long : 3 ≤ run.lines.length) (id : String)
    (stamp : Stamp) :
    IsBlockRecord source ((runDraft run).toRecord id source.path stamp) run.bounds := by
  have taken := (separates_runsFrom 1 source.lines).taken run member
  have size : run.stop - run.start + 1 = run.lines.length := by
    rw [Run.stop]
    omega
  have shown : run.lines.take 3 = (source.lines.drop (run.start - 1)).take 3 := by
    rw [List.prefix_iff_eq_take.mp taken, List.take_take, Nat.min_eq_left long]
  refine ⟨rfl, rfl, rfl, ?_, ?_⟩
  · simp only [Run.bounds, size, runDraft, blockDraft, Draft.toRecord, List.length_map]
  · simp only [Run.bounds, size, ← shown, ← join_eq_intercalate, runDraft, blockDraft,
      Draft.toRecord, String.toList_ofList, excerpt, List.length_map, List.map_take]

theorem forall₂_commentedCode (source : Source) :
    List.Forall₂
      (fun draft block => ∀ id stamp, IsBlockRecord source (draft.toRecord id source.path stamp) block)
      (commentedCode source) (reportedBlocks source) := by
  rw [commentedCode, runDrafts, reportedBlocks, List.forall₂_map_left_iff, List.forall₂_map_right_iff,
    List.forall₂_same]
  intro run chosen id stamp
  obtain ⟨member, long⟩ := mem_longRuns_iff.mp chosen
  exact isBlockRecord_runDraft member long id stamp

theorem ofKind_codeQuality {source : Source} {drafts : List Draft}
    (checked : Detector.qualityCheck source = .ok drafts) :
    ofKind .commentedOutCode drafts = commentedCode source := by
  obtain ⟨numbers, kind, rfl⟩ := Detector.exists_numbers_of_codeQuality checked
  have magic : ofKind .commentedOutCode numbers = [] := ofKind_eq_nil (by decide) kind
  have reminders : ofKind .commentedOutCode (reminders source) = [] := by
    refine ofKind_eq_nil_of_ne fun draft mem => ?_
    grind [reminders, reminder?, reminderDraft, mem_filterMap_mapIdx]
  have bodies : ofKind .commentedOutCode (Body.check source) = [] := by
    refine ofKind_eq_nil_of_ne fun draft mem => ?_
    rcases List.mem_append.mp mem with mem | mem
    · grind [Body.complexityDraft]
    · grind [Body.placeholders, Body.notImplementedDraft, Body.reminderDraft, Body.emptyDraft]
  have runs : ofKind .commentedOutCode (commentedCode source) = commentedCode source := by
    refine ofKind_eq_self fun draft mem => ?_
    obtain ⟨run, -, rfl⟩ := List.mem_map.mp mem
    rfl
  rw [ofKind_append, ofKind_append, check, ofKind_append, magic, reminders, bodies, runs,
    List.append_nil]
  rfl

theorem mem_reportedBlocks_iff {source : Source} {first last : Nat} :
    (first, last) ∈ reportedBlocks source ↔
      IsBlock (CodeAt 1 source.lines) first last ∧ first + 2 ≤ last := by
  have separates := separates_runsFrom 1 source.lines
  rw [← separates.mem_bounds_iff, reportedBlocks, List.mem_map, List.mem_map]
  constructor
  · rintro ⟨run, chosen, same⟩
    obtain ⟨rfl, rfl⟩ := Prod.mk.inj same
    obtain ⟨member, long⟩ := mem_longRuns_iff.mp chosen
    have stop := separates.stop_add_one member
    exact ⟨⟨run, member, rfl⟩, by omega⟩
  · rintro ⟨⟨run, member, same⟩, long⟩
    obtain ⟨rfl, rfl⟩ := Prod.mk.inj same
    have stop := separates.stop_add_one member
    exact ⟨run, mem_longRuns_iff.mpr ⟨member, by omega⟩, rfl⟩

theorem pairwise_reportedBlocks (source : Source) :
    (reportedBlocks source).Pairwise fun earlier later => earlier.2 + 1 < later.1 :=
  (separates_runsFrom 1 source.lines).pairwise_bounds.sublist (List.filter_sublist.map _)

theorem exists_reportedBlock {source : Source} {first last : Nat} (long : first + 2 ≤ last)
    (all : ∀ n, first ≤ n → n ≤ last → CodeAt 1 source.lines n) :
    ∃ block ∈ reportedBlocks source, block.1 ≤ first ∧ last ≤ block.2 := by
  have separates := separates_runsFrom 1 source.lines
  obtain ⟨block, member, inside⟩ := separates.codeAt_iff.mp (all first le_rfl (by omega))
  have maximal := separates.mem_bounds_iff.mp member
  have included := maximal.includes all inside ⟨le_rfl, by omega⟩
  exact ⟨block, mem_reportedBlocks_iff.mpr ⟨maximal, by omega⟩, included⟩

/-- The findings about commented code are the longest blocks of lines that look like code, if they
have three lines or more, in order: they have a gap between any two and cover each line of three
neighbours that look like code. -/
theorem commentedCode_maximalRuns (source : Source) :
    (∀ first last, (first, last) ∈ reportedBlocks source ↔
      IsBlock (CodeAt 1 source.lines) first last ∧ first + 2 ≤ last) ∧
    ((reportedBlocks source).Pairwise fun earlier later => earlier.2 + 1 < later.1) ∧
    (∀ first last, first + 2 ≤ last →
      (∀ n, first ≤ n → n ≤ last → CodeAt 1 source.lines n) →
        ∃ block ∈ reportedBlocks source, block.1 ≤ first ∧ last ≤ block.2) ∧
    List.Forall₂
      (fun draft block => ∀ id stamp, IsBlockRecord source (draft.toRecord id source.path stamp) block)
      (commentedCode source) (reportedBlocks source) ∧
    ∀ stamps vocabulary records,
      (Detector.codeQuality stamps).examine vocabulary (.ok source) = .ok records →
        List.Forall₂ (IsBlockRecord source) (records.filter (·.kind == .commentedOutCode))
          (reportedBlocks source) := by
  refine ⟨fun _ _ => mem_reportedBlocks_iff, pairwise_reportedBlocks source,
    fun _ _ => exists_reportedBlock, forall₂_commentedCode source, ?_⟩
  intro stamps vocabulary records examined
  obtain ⟨drafts, checked, marked⟩ := Detector.forall₂_of_examine .commentedOutCode examined
  rw [ofKind_codeQuality checked] at marked
  exact Detector.forall₂_records marked (forall₂_commentedCode source)

/-- Four lines that look like code, an empty line, and three lines at the end. -/
def twoRuns : Source where
  path := "src/a.js"
  grammar := .javascript
  text := "// a = 1\n//b(\n// \x7d\n  // .c()\n\n// let d\n// e[\n// return f".toList
  tree := .node ⟨0, "program", "", true, ⟨0, 57⟩⟩ []

theorem commentedCode_maximalRuns_twoRuns :
    reportedBlocks twoRuns = [(1, 4), (6, 8)] ∧
      IsBlock (CodeAt 1 twoRuns.lines) 1 4 ∧ IsBlock (CodeAt 1 twoRuns.lines) 6 8 := by
  have blocks : reportedBlocks twoRuns = [(1, 4), (6, 8)] := by decide +kernel
  have maximal := (commentedCode_maximalRuns twoRuns).1
  rw [blocks] at maximal
  exact ⟨blocks, ((maximal 1 4).mp (by decide)).1, ((maximal 6 8).mp (by decide)).1⟩

end Remark
end Hazard
