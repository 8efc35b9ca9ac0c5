import Hazard.Text.Lines
import Mathlib.Data.List.Infix
import Mathlib.Data.List.TakeWhile

/-!
# Places in a text

A place in a text is told in two ways: by the characters before it, of which the line feeds give the
line and the rest gives the column, and by a byte offset that is looked up among the lines of the
text.  The two agree, except between a carriage return and the line feed that takes it along.
-/

namespace Hazard
namespace Text

/-- The one-based numbers of the line and the column after a text. -/
def placeAfter (before : List Char) : Nat × Nat :=
  (before.count '\n' + 1, (lastLine before).length + 1)

/-- The place of a byte offset; a character that the offset divides lies after it. -/
def placeAt (text : List Char) (offset : Nat) : Nat × Nat := placeAfter (takeBytes offset text)

/-- The offset divides a line end: it stands after its carriage return and before its line feed. -/
def DividesLineEnd (text : List Char) (offset : Nat) : Prop :=
  ∃ front rear, text = front ++ '\r' :: '\n' :: rear ∧ takeBytes offset text = front ++ ['\r']

/-! ## Bytes -/

theorem takeBytes_initial (count : Nat) (text : List Char) : takeBytes count text <+: text := by
  induction text generalizing count with
  | nil => simp [takeBytes]
  | cons c rest ih =>
      rw [takeBytes]
      split
      · exact (List.prefix_cons_inj c).mpr (ih _)
      · exact List.nil_prefix

theorem takeBytes_prefix_takeBytes {count more : Nat} (le : count ≤ more) (text : List Char) :
    takeBytes count text <+: takeBytes more text := by
  induction text generalizing count more with
  | nil => simp [takeBytes]
  | cons c rest ih =>
      rw [takeBytes, takeBytes]
      split
      · rw [if_pos (by omega)]
        exact (List.prefix_cons_inj c).mpr (ih (by omega))
      · exact List.nil_prefix

theorem byteLength_append (front rear : List Char) :
    byteLength (front ++ rear) = byteLength front + byteLength rear := by
  induction front with
  | nil => simp [byteLength]
  | cons c front ih => simp [byteLength, ih, Nat.add_assoc]

theorem takeBytes_byteLength_add (count : Nat) (front rear : List Char) :
    takeBytes (byteLength front + count) (front ++ rear) = front ++ takeBytes count rear := by
  induction front with
  | nil => simp [byteLength]
  | cons c front ih =>
      have fits : c.utf8Size ≤ byteLength (c :: front) + count := by
        simp only [byteLength]
        omega
      have left : byteLength (c :: front) + count - c.utf8Size = byteLength front + count := by
        simp only [byteLength]
        omega
      rw [List.cons_append, takeBytes, if_pos fits, left, ih, List.cons_append]

/-- Whatever is left of the bytes after the characters that fit does not hold the next one. -/
theorem takeBytes_slack {count : Nat} {text rest : List Char}
    (split : text = takeBytes count text ++ rest) :
    ∃ slack, count = byteLength (takeBytes count text) + slack ∧ takeBytes slack rest = [] := by
  induction text generalizing count with
  | nil =>
      obtain rfl : rest = [] := by simpa [takeBytes] using split.symm
      exact ⟨count, by simp [takeBytes, byteLength], rfl⟩
  | cons c text ih =>
      rw [takeBytes] at split ⊢
      split at split <;> rename_i fits
      · rw [if_pos fits]
        obtain ⟨slack, sum, full⟩ := ih (List.cons.inj split).2
        refine ⟨slack, ?_, full⟩
        simp only [byteLength]
        omega
      · rw [if_neg fits]
        obtain rfl : rest = c :: text := split.symm
        exact ⟨count, by simp [byteLength], by rw [takeBytes, if_neg fits]⟩

/-! ## Lines -/

theorem lastLine_eq_self {text : List Char} (single : '\n' ∉ text) : lastLine text = text := by
  have all : ∀ c ∈ text.reverse, decide (c ≠ '\n') = true := by
    intro c mem
    exact decide_eq_true fun same => single (same ▸ List.mem_reverse.mp mem)
  rw [lastLine, List.takeWhile_eq_self_iff.mpr all, List.reverse_reverse]

theorem lastLine_append_of_notMem (front : List Char) {tail : List Char} (single : '\n' ∉ tail) :
    lastLine (front ++ tail) = lastLine front ++ tail := by
  have all : ∀ c ∈ tail.reverse, decide (c ≠ '\n') = true := by
    intro c mem
    exact decide_eq_true fun same => single (same ▸ List.mem_reverse.mp mem)
  rw [lastLine, lastLine, List.reverse_append, List.takeWhile_append_of_pos all,
    List.reverse_append, List.reverse_reverse]

theorem lastLine_append_of_mem (front : List Char) {tail : List Char} (broken : '\n' ∈ tail) :
    lastLine (front ++ tail) = lastLine tail := by
  have stops : (tail.reverse.takeWhile (· ≠ '\n')).length ≠ tail.reverse.length := by
    intro same
    have all := List.takeWhile_eq_self_iff.mp (List.takeWhile_prefix _ |>.eq_of_length same)
    simpa using all '\n' (List.mem_reverse.mpr broken)
  rw [lastLine, lastLine, List.reverse_append, List.takeWhile_append, if_neg stops]

theorem lastLine_newline_cons (text : List Char) : lastLine ('\n' :: text) = lastLine text := by
  by_cases broken : '\n' ∈ text
  · exact lastLine_append_of_mem ['\n'] broken
  · have alone := lastLine_append_of_notMem ['\n'] broken
    rw [lastLine_eq_self broken]
    simpa [lastLine] using alone

theorem newline_notMem_lastLine (text : List Char) : '\n' ∉ lastLine text := by
  intro mem
  have := List.mem_takeWhile_imp (List.mem_reverse.mp mem)
  simp at this

/-- What stands before the last line ends with a line feed or is empty. -/
theorem exists_append_lastLine (text : List Char) :
    ∃ front, text = front ++ lastLine text ∧ lastLine front = [] := by
  refine ⟨(text.reverse.dropWhile (· ≠ '\n')).reverse, ?_, ?_⟩
  · rw [lastLine, ← List.reverse_append, List.takeWhile_append_dropWhile, List.reverse_reverse]
  · rw [lastLine, List.reverse_reverse, List.reverse_eq_nil_iff, List.takeWhile_eq_nil_iff]
    intro nonempty
    exact List.dropWhile_get_zero_not (· ≠ '\n') text.reverse nonempty

/-- The first line of a text. -/
def firstLine (text : List Char) : List Char := (lines text).headD []

theorem lines_ne_nil (text : List Char) : lines text ≠ [] := by
  fun_induction lines text <;> simp_all

theorem lines_eq_cons (text : List Char) : ∃ more, lines text = firstLine text :: more := by
  obtain ⟨line, more, lines_eq⟩ := List.exists_cons_of_ne_nil (lines_ne_nil text)
  exact ⟨more, by simp [firstLine, lines_eq]⟩

theorem lines_newline (rest : List Char) : lines ('\n' :: rest) = [] :: lines rest := by
  simp [lines]

theorem lines_return_newline (rest : List Char) :
    lines ('\r' :: '\n' :: rest) = lines ('\n' :: rest) := by
  rw [lines_newline, lines]

theorem lines_cons {c : Char} {rest more : List Char} {others : List (List Char)}
    (plain : c ≠ '\n') (joined : ¬(c = '\r' ∧ rest.head? = some '\n'))
    (lines_eq : lines rest = more :: others) : lines (c :: rest) = (c :: more) :: others := by
  rw [lines.eq_def]
  split
  · contradiction
  · simp_all
  · rename_i same
    obtain ⟨rfl, rfl⟩ := List.cons.inj same
    simp [plain, lines_eq]

theorem firstLine_initial (text : List Char) : firstLine text <+: text := by
  rw [firstLine]
  fun_induction lines text with
  | case1 => exact List.nil_prefix
  | case2 => exact List.nil_prefix
  | case3 => exact List.nil_prefix
  | case4 c rest _ _ lines_eq ih => exact absurd lines_eq (lines_ne_nil rest)
  | case5 c rest _ _ line more lines_eq ih =>
      rw [lines_eq] at ih
      exact (List.prefix_cons_inj c).mpr ih

theorem length_lines (text : List Char) : (lines text).length = text.count '\n' + 1 := by
  fun_induction lines text <;> simp_all

/-- The line on which a text is cut holds what stands before the cut since the last line feed, and
then the first line after the cut. -/
theorem getElem?_lines_append {before rest : List Char}
    (undivided : ¬(before.getLast? = some '\r' ∧ rest.head? = some '\n')) :
    (lines (before ++ rest))[before.count '\n']? = some (lastLine before ++ firstLine rest) := by
  induction before with
  | nil =>
      obtain ⟨more, lines_eq⟩ := lines_eq_cons rest
      simp [lines_eq, lastLine]
  | cons c before ih =>
      have ih := ih fun divided => undivided (by
        rcases before with _ | ⟨d, before⟩
        · simp at divided
        · simpa using divided)
      by_cases newline : c = '\n'
      · subst newline
        simpa [lines_newline, lastLine_newline_cons] using ih
      · have count_eq : (c :: before).count '\n' = before.count '\n' :=
          List.count_cons_of_ne newline
        rw [List.cons_append, count_eq]
        by_cases joined : c = '\r' ∧ (before ++ rest).head? = some '\n'
        · obtain ⟨rfl, next⟩ := joined
          rcases before with _ | ⟨d, before⟩
          · exact absurd ⟨rfl, next⟩ undivided
          · obtain rfl : d = '\n' := by simpa using next
            rw [List.cons_append, lines_return_newline, ← List.cons_append, ih]
            exact congrArg (fun line => some (line ++ firstLine rest))
              (lastLine_append_of_mem ['\r'] List.mem_cons_self).symm
        · obtain ⟨more, lines_eq⟩ := lines_eq_cons (before ++ rest)
          rw [lines_cons newline joined lines_eq]
          rw [lines_eq] at ih
          by_cases broken : '\n' ∈ before
          · obtain ⟨number, number_eq⟩ :=
              Nat.exists_eq_succ_of_ne_zero (List.count_pos_iff.mpr broken).ne'
            have same : lastLine (c :: before) = lastLine before :=
              lastLine_append_of_mem [c] broken
            rw [number_eq] at ih ⊢
            simpa [same] using ih
          · have here : before.count '\n' = 0 := List.count_eq_zero.mpr broken
            have whole : lastLine (c :: before) = c :: lastLine before := by
              rw [lastLine_eq_self broken, lastLine_eq_self]
              simp [broken, Ne.symm newline]
            rw [here] at ih ⊢
            simpa [whole] using ih

/-! ## Rows and columns -/

theorem row_eq (text : List Char) (offset : Nat) :
    (pointAt text offset).row + 1 = (placeAt text offset).1 := rfl

theorem row_mono {offset later : Nat} (le : offset ≤ later) (text : List Char) :
    (pointAt text offset).row ≤ (pointAt text later).row :=
  (takeBytes_prefix_takeBytes le text).sublist.count_le '\n'

theorem row_lt_length_lines (text : List Char) (offset : Nat) :
    (pointAt text offset).row < (lines text).length := by
  rw [length_lines]
  exact Nat.lt_succ_of_le ((takeBytes_initial offset text).sublist.count_le '\n')

/-- The bytes of the lines before the place. -/
theorem exists_lineStart (text : List Char) (offset : Nat) :
    ∃ front, takeBytes offset text = front ++ lastLine (takeBytes offset text) ∧
      lastLine front = [] ∧ (pointAt text offset).row = front.count '\n' ∧
      (pointAt text offset).offset = offset - byteLength front := by
  obtain ⟨front, split, ends⟩ := exists_append_lastLine (takeBytes offset text)
  refine ⟨front, split, ends, ?_, ?_⟩
  · have none := List.count_eq_zero.mpr (newline_notMem_lastLine (takeBytes offset text))
    rw [pointAt, split, List.count_append, ← split, none, Nat.add_zero]
  · rw [pointAt]
    simp only
    congr 1
    have := congrArg byteLength split
    rw [byteLength_append] at this
    omega

theorem takeBytes_of_initial {count : Nat} {front text : List Char} (within : front <+: text)
    (full : takeBytes count text = []) : takeBytes count front = [] := by
  cases front with
  | nil => rfl
  | cons c front =>
      obtain ⟨rear, rfl⟩ := within
      rw [List.cons_append, takeBytes] at full
      rw [takeBytes]
      split at full
      · contradiction
      · rw [if_neg ‹_›]

theorem dividesLineEnd_iff {text rest : List Char} {offset : Nat}
    (split : text = takeBytes offset text ++ rest) :
    DividesLineEnd text offset ↔
      (takeBytes offset text).getLast? = some '\r' ∧ rest.head? = some '\n' := by
  constructor
  · rintro ⟨front, rear, text_eq, before_eq⟩
    rw [before_eq, text_eq, List.append_assoc] at split
    obtain rfl : '\n' :: rear = rest := (List.cons.inj (List.append_cancel_left split)).2
    simp [before_eq]
  · rintro ⟨ends, starts⟩
    obtain ⟨rear, rfl⟩ := List.head?_eq_some_iff.mp starts
    obtain ⟨front, before_eq⟩ := List.getLast?_eq_some_iff.mp ends
    refine ⟨front, rear, ?_, before_eq⟩
    rw [before_eq] at split
    simpa using split

/-- What an offset has beyond the characters before it is too little for the next character. -/
theorem exists_slack (text : List Char) (offset : Nat) :
    ∃ slack rest, text = takeBytes offset text ++ rest ∧ takeBytes slack rest = [] ∧
      (pointAt text offset).offset = byteLength (lastLine (takeBytes offset text)) + slack := by
  obtain ⟨rest, split⟩ := takeBytes_initial offset text
  obtain ⟨slack, sum, full⟩ := takeBytes_slack split.symm
  obtain ⟨front, before_eq, -, -, offset_eq⟩ := exists_lineStart text offset
  have bytes := congrArg byteLength before_eq
  rw [byteLength_append] at bytes
  exact ⟨slack, rest, split.symm, full, by omega⟩

/-- The column looked up among the lines stops before the carriage return of a line end. -/
theorem column_of_dividesLineEnd {text : List Char} {offset : Nat}
    (divides : DividesLineEnd text offset) :
    column (lines text) (pointAt text offset) + 1 = (placeAt text offset).2 := by
  obtain ⟨slack, -, -, -, within⟩ := exists_slack text offset
  obtain ⟨start, rear, text_eq, taken⟩ := divides
  have single : '\n' ∉ ['\r'] := by decide
  have last_eq : lastLine (start ++ ['\r']) = lastLine start ++ ['\r'] :=
    lastLine_append_of_notMem start single
  have row_count : (pointAt text offset).row = (takeBytes offset text).count '\n' := rfl
  have found : (lines text)[(pointAt text offset).row]? = some (lastLine start) := by
    have line : (lines (start ++ '\r' :: '\n' :: rear))[start.count '\n']? =
        some (lastLine start ++ firstLine ('\r' :: '\n' :: rear)) :=
      getElem?_lines_append (by simp)
    have none : firstLine ('\r' :: '\n' :: rear) = [] := by
      simp [firstLine, lines_return_newline, lines_newline]
    rw [row_count, taken, List.count_append, List.count_eq_zero.mpr single, Nat.add_zero,
      text_eq, line, none, List.append_nil]
  have enough : takeBytes (byteLength (lastLine start) + ('\r'.utf8Size + slack))
      (lastLine start ++ []) = lastLine start ++ takeBytes ('\r'.utf8Size + slack) [] :=
    takeBytes_byteLength_add _ _ _
  rw [column, found, within, placeAt, placeAfter, taken, last_eq]
  simp only [byteLength_append, byteLength, Nat.add_zero, Nat.add_assoc, Option.getD_some]
  rw [List.append_nil] at enough
  rw [enough]
  simp [takeBytes]

/-- The column looked up among the lines counts the characters since the last line feed. -/
theorem column_of_not_dividesLineEnd {text : List Char} {offset : Nat}
    (undivided : ¬ DividesLineEnd text offset) :
    column (lines text) (pointAt text offset) = (placeAt text offset).2 := by
  obtain ⟨slack, rest, split, full, within⟩ := exists_slack text offset
  rw [dividesLineEnd_iff split] at undivided
  have line := getElem?_lines_append undivided
  rw [← split] at line
  have row_count : (pointAt text offset).row = (takeBytes offset text).count '\n' := rfl
  rw [column, row_count, line, within, Option.getD_some, takeBytes_byteLength_add,
    takeBytes_of_initial (firstLine_initial rest) full, List.append_nil]
  rfl

theorem column_eq_iff (text : List Char) (offset : Nat) :
    column (lines text) (pointAt text offset) = (placeAt text offset).2 ↔
      ¬ DividesLineEnd text offset := by
  constructor
  · intro same divides
    have later := column_of_dividesLineEnd divides
    omega
  · exact column_of_not_dividesLineEnd

theorem column_pos (allLines : List (List Char)) (point : Point) : 1 ≤ column allLines point :=
  Nat.le_add_left 1 _

/-- On one row a later offset has no smaller column. -/
theorem column_mono {offset later : Nat} (le : offset ≤ later) {text : List Char}
    (row : (pointAt text offset).row = (pointAt text later).row) :
    column (lines text) (pointAt text offset) ≤ column (lines text) (pointAt text later) := by
  obtain ⟨front, split, ends, row_eq, offset_eq⟩ := exists_lineStart text offset
  obtain ⟨front', split', ends', row_eq', offset_eq'⟩ := exists_lineStart text later
  obtain ⟨rest, further⟩ := takeBytes_prefix_takeBytes le text
  have start_eq : front = front' := by
    -- The earlier text holds all line feeds of the later one.
    have single : '\n' ∉ rest := by
      rw [← List.count_eq_zero]
      have total : (takeBytes offset text).count '\n' + rest.count '\n' =
          (takeBytes later text).count '\n' := by rw [← List.count_append, further]
      have same : (takeBytes offset text).count '\n' = (takeBytes later text).count '\n' := row
      omega
    have last_eq : lastLine (takeBytes later text) = lastLine (takeBytes offset text) ++ rest := by
      rw [← further, lastLine_append_of_notMem _ single]
    rw [last_eq, ← further, ← List.append_assoc] at split'
    exact List.append_cancel_right (split.symm.trans (List.append_cancel_right split'))
  subst start_eq
  rw [column, column, ← row]
  have more : (pointAt text offset).offset ≤ (pointAt text later).offset := by omega
  exact Nat.add_le_add_right (takeBytes_prefix_takeBytes more _).length_le 1

/-! ## Lines by their numbers -/

/-- The line stands in the text after so many line feeds, right behind the last, and holds none. -/
def LineAt (text : List Char) (number : Nat) (line : List Char) : Prop :=
  ∃ front rear, text = front ++ line ++ rear ∧ front.count '\n' = number ∧ lastLine front = [] ∧
    '\n' ∉ line

theorem lineAt_nil (text : List Char) : LineAt text 0 [] :=
  ⟨[], text, rfl, rfl, rfl, List.not_mem_nil⟩

theorem LineAt.newline_cons {text line : List Char} {number : Nat}
    (stands : LineAt text number line) : LineAt ('\n' :: text) (number + 1) line := by
  obtain ⟨front, rear, rfl, count_eq, ends, single⟩ := stands
  exact ⟨'\n' :: front, rear, rfl, by simp [count_eq], (lastLine_newline_cons front).trans ends,
    single⟩

/-- A line feed before the line, if there is one, lies behind a character that is none. -/
theorem LineAt.cons {text line : List Char} {number : Nat} (stands : LineAt text number line)
    {c : Char} (newline : c ≠ '\n') (later : number ≠ 0) : LineAt (c :: text) number line := by
  obtain ⟨front, rear, rfl, count_eq, ends, single⟩ := stands
  have broken : '\n' ∈ front := List.count_pos_iff.mp (by omega)
  exact ⟨c :: front, rear, rfl, by rw [List.count_cons_of_ne newline, count_eq],
    (lastLine_append_of_mem [c] broken).trans ends, single⟩

/-- A line stands in its text after as many line feeds as its number says. -/
theorem lineAt_of_getElem?_lines {text line : List Char} {number : Nat}
    (found : (lines text)[number]? = some line) : LineAt text number line := by
  induction text generalizing number line with
  | nil =>
      obtain ⟨rfl, rfl⟩ : number = 0 ∧ line = [] := by
        cases number <;> simp_all [lines]
      exact lineAt_nil []
  | cons c rest ih =>
      obtain ⟨more, lines_eq⟩ := lines_eq_cons rest
      by_cases newline : c = '\n'
      · subst newline
        rw [lines_newline] at found
        cases number with
        | zero =>
            obtain rfl : line = [] := by simpa using found.symm
            exact lineAt_nil _
        | succ number => exact (ih found).newline_cons
      · by_cases joined : c = '\r' ∧ rest.head? = some '\n'
        · obtain ⟨rfl, next⟩ := joined
          obtain ⟨tail, rfl⟩ := List.head?_eq_some_iff.mp next
          rw [lines_return_newline] at found
          by_cases first : number = 0
          · subst first
            obtain rfl : line = [] := by simpa [lines_newline] using found.symm
            exact lineAt_nil _
          · exact (ih found).cons newline first
        · rw [lines_cons newline joined lines_eq] at found
          cases number with
          | zero =>
              obtain rfl : line = c :: firstLine rest := by simpa using found.symm
              obtain ⟨rear, split⟩ := firstLine_initial rest
              obtain ⟨-, -, -, -, -, single⟩ :=
                ih (by simp [lines_eq] : (lines rest)[0]? = some (firstLine rest))
              exact ⟨[], rear, by simp [split], rfl, rfl, by simp [Ne.symm newline, single]⟩
          | succ number =>
              rw [List.getElem?_cons_succ] at found
              have same : (lines rest)[number + 1]? = some line := by simpa [lines_eq] using found
              exact (ih same).cons newline (Nat.succ_ne_zero number)

/-- The place inside a line of a text. -/
theorem placeAfter_append {front head : List Char} (ends : lastLine front = [])
    (single : '\n' ∉ head) :
    placeAfter (front ++ head) = (front.count '\n' + 1, head.length + 1) := by
  rw [placeAfter, lastLine_append_of_notMem front single, ends, List.count_append,
    List.count_eq_zero.mpr single, List.nil_append, Nat.add_zero]

end Text
end Hazard
