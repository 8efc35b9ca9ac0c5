import Hazard.Proofs.Text.Octets

/-!
# Lines by number, places by offset

The lines of a text are what is shown of the stretches between its line feeds.  An offset that divides
no character lies on the line whose number is its row, and its column counts the characters before it
on that line, as far as the line is shown.  This holds for every text, with any mixture of line ends
and of characters of one or more octets.
-/

namespace Hazard
namespace Text

/-- The stretch of the line with the number, counted from zero: it lies after that many line feeds,
reaches from one to the next or to an end of the text, and holds none. -/
structure IsLine (text : List Char) (number : Nat) (front stretch rear : List Char) : Prop where
  /-- The stretch is a piece of the text. -/
  split : text = front ++ stretch ++ rear
  /-- As many line feeds stand before it as the number says. -/
  number : front.count '\n' = number
  /-- It starts with the text or after a line feed. -/
  starts : front = [] ∨ front.getLast? = some '\n'
  /-- It holds no line feed. -/
  single : '\n' ∉ stretch
  /-- It ends with the text or before a line feed. -/
  ends : rear = [] ∨ rear.head? = some '\n'

/-- A line without one carriage return at its end. -/
def withoutReturn (line : List Char) : List Char :=
  if line.getLast? = some '\r' then line.dropLast else line

/-- What is shown of a stretch: a line feed after it takes a carriage return along. -/
def shown (stretch rear : List Char) : List Char :=
  if rear.isEmpty then stretch else withoutReturn stretch

/-- The line with the number, counted from zero, is shown as these characters. -/
def Shows (text : List Char) (number : Nat) (line : List Char) : Prop :=
  ∃ front stretch rear, IsLine text number front stretch rear ∧ line = shown stretch rear

/-- The place of an offset among octets: the line feeds before it and the octets since the last. -/
def octetPoint (octets : List UInt8) (offset : Nat) : Point :=
  { row := (octets.take offset).count 10
    offset := ((octets.take offset).reverse.takeWhile (· ≠ 10)).length }

/-- The one-based column that is read from the octets of a line. -/
def octetColumn (allLines : List (List Char)) (point : Point) : Nat :=
  (decodeSome ((encode (allLines[point.row]?.getD [])).take point.offset)).length + 1

/-- The offset lies on the line with the number. -/
def LiesOn (text : List Char) (number offset : Nat) : Prop :=
  ∃ front stretch rear, IsLine text number front stretch rear ∧
    (encode front).length ≤ offset ∧ offset ≤ (encode (front ++ stretch)).length

/-- The offset stands on its line after some characters and before the others.  The line is found under
the number of its row, and the column counts the characters before the offset that are shown. -/
structure IsPlaced (text : List Char) (offset : Nat) (front head tail rear : List Char) : Prop where
  /-- The characters around the offset are those of the line with the number of its row. -/
  line : IsLine text (pointAt text offset).row front (head ++ tail) rear
  /-- The offset counts the octets before it. -/
  cut : offset = (encode (front ++ head)).length
  /-- The place is the same if it is told from the octets. -/
  point : pointAt text offset = octetPoint (encode text) offset
  /-- The row is one of the text. -/
  valid : (pointAt text offset).row < (lines text).length
  /-- The line of the row is what is shown of these characters. -/
  found : (lines text)[(pointAt text offset).row]? = some (shown (head ++ tail) rear)
  /-- The column counts the characters before the offset that are shown. -/
  column : column (lines text) (pointAt text offset) =
    1 + min head.length (shown (head ++ tail) rear).length
  /-- The column is the same if it is read from the octets of the line. -/
  octetColumn : octetColumn (lines text) (octetPoint (encode text) offset) =
    Text.column (lines text) (pointAt text offset)

/-! ## What is shown of a line -/

theorem lastLine_eq_nil_of_starts {front : List Char}
    (starts : front = [] ∨ front.getLast? = some '\n') : lastLine front = [] := by
  rcases starts with rfl | newline
  · rfl
  · obtain ⟨before, rfl⟩ := List.getLast?_eq_some_iff.mp newline
    rw [lastLine, List.reverse_append]
    rfl

theorem starts_of_lastLine_eq_nil {front : List Char} (ends : lastLine front = []) :
    front = [] ∨ front.getLast? = some '\n' := by
  rcases List.eq_nil_or_concat' front with rfl | ⟨before, c, rfl⟩
  · exact .inl rfl
  · refine .inr ?_
    by_cases newline : c = '\n'
    · rw [newline, List.getLast?_concat]
    · have single : '\n' ∉ [c] := by simpa using Ne.symm newline
      rw [lastLine_append_of_notMem before single] at ends
      exact absurd ends (by simp)

theorem withoutReturn_initial (line : List Char) : withoutReturn line <+: line := by
  rw [withoutReturn]
  split
  · exact List.dropLast_prefix line
  · exact List.prefix_refl line

theorem shown_initial (stretch rear : List Char) : shown stretch rear <+: stretch := by
  rw [shown]
  split
  · exact List.prefix_refl stretch
  · exact withoutReturn_initial stretch

theorem withoutReturn_cons {c : Char} {rest : List Char} (kept : c ≠ '\r' ∨ rest ≠ []) :
    withoutReturn (c :: rest) = c :: withoutReturn rest := by
  cases rest with
  | nil =>
      have plain : c ≠ '\r' := kept.resolve_right fun nonempty => nonempty rfl
      simp [withoutReturn, plain]
  | cons d rest =>
      rw [withoutReturn, withoutReturn, List.getLast?_cons_cons]
      split
      · rw [List.dropLast_cons_cons]
      · rfl

theorem shown_cons {c : Char} {stretch rear : List Char}
    (kept : c ≠ '\r' ∨ stretch ≠ [] ∨ rear = []) :
    shown (c :: stretch) rear = c :: shown stretch rear := by
  rw [shown, shown]
  split
  · rfl
  · rename_i followed
    have more : rear ≠ [] := by simpa using followed
    exact withoutReturn_cons (kept.imp_right fun rest => rest.resolve_right more)

/-- The first line is what is shown of the stretch up to the first line feed. -/
theorem firstLine_append {stretch rear : List Char} (single : '\n' ∉ stretch)
    (ends : rear = [] ∨ rear.head? = some '\n') : firstLine (stretch ++ rear) = shown stretch rear := by
  induction stretch with
  | nil =>
      rcases ends with rfl | newline
      · rfl
      · obtain ⟨rest, rfl⟩ := List.head?_eq_some_iff.mp newline
        rw [List.nil_append, firstLine, lines_newline]
        rfl
  | cons c stretch ih =>
      obtain ⟨differs, unbroken⟩ := not_or.mp (mt List.mem_cons.mpr single)
      have newline : c ≠ '\n' := Ne.symm differs
      by_cases joined : c = '\r' ∧ (stretch ++ rear).head? = some '\n'
      · -- The line feed that takes the carriage return along is not on the line itself.
        obtain ⟨rfl, next⟩ := joined
        obtain rfl : stretch = [] := by
          cases stretch with
          | nil => rfl
          | cons d stretch =>
              obtain rfl : d = '\n' := by simpa using next
              exact absurd List.mem_cons_self unbroken
        obtain ⟨rest, rfl⟩ := List.head?_eq_some_iff.mp next
        rw [firstLine, List.cons_append, List.nil_append, lines_return_newline, lines_newline]
        rfl
      · obtain ⟨more, lines_eq⟩ := lines_eq_cons (stretch ++ rear)
        have kept : c ≠ '\r' ∨ stretch ≠ [] ∨ rear = [] := by
          by_contra lost
          simp only [not_or, not_not] at lost
          obtain ⟨rfl, rfl, more⟩ := lost
          exact joined ⟨rfl, ends.resolve_left more⟩
        rw [shown_cons kept, ← ih unbroken, List.cons_append]
        rw [firstLine, lines_cons newline joined lines_eq, List.headD_cons]

/-! ## Lines by number -/

section

variable {text front stretch rear : List Char} {number : Nat}

theorem IsLine.getElem?_lines (isLine : IsLine text number front stretch rear) :
    (lines text)[number]? = some (shown stretch rear) := by
  have undivided : ¬ (front.getLast? = some '\r' ∧ (stretch ++ rear).head? = some '\n') := by
    rintro ⟨ends, -⟩
    rcases isLine.starts with rfl | newline
    · contradiction
    · rw [newline] at ends
      exact absurd (Option.some.inj ends) (by decide)
  have found := getElem?_lines_append undivided
  rwa [← List.append_assoc, ← isLine.split, isLine.number,
    lastLine_eq_nil_of_starts isLine.starts, List.nil_append,
    firstLine_append isLine.single isLine.ends] at found

theorem IsLine.stretch_eq (isLine : IsLine text number front stretch rear) :
    stretch = (stretch ++ rear).takeWhile (· ≠ '\n') := by
  have plain : ∀ c ∈ stretch, decide (c ≠ '\n') = true := fun c member =>
    decide_eq_true fun newline => isLine.single (newline ▸ member)
  have stops : rear.takeWhile (· ≠ '\n') = [] := by
    rcases isLine.ends with rfl | newline
    · rfl
    · obtain ⟨rest, rfl⟩ := List.head?_eq_some_iff.mp newline
      rfl
  rw [List.takeWhile_append_of_pos plain, stops, List.append_nil]

section

variable {front' stretch' rear' : List Char} (isLine : IsLine text number front stretch rear)
  (other : IsLine text number front' stretch' rear')

include isLine other

theorem IsLine.front_eq_of_initial (initial : front <+: front') : front = front' := by
  obtain ⟨between, rfl⟩ := initial
  have none_between : '\n' ∉ between := by
    have count := other.number
    rw [List.count_append, isLine.number] at count
    exact List.count_eq_zero.mp (by omega)
  have last := lastLine_eq_nil_of_starts other.starts
  rw [lastLine_append_of_notMem front none_between] at last
  rw [(List.append_eq_nil_iff.mp last).2, List.append_nil]

/-- A number has one line. -/
theorem IsLine.unique : front = front' ∧ stretch = stretch' ∧ rear = rear' := by
  have split := isLine.split.symm.trans other.split
  rw [List.append_assoc, List.append_assoc] at split
  have front_eq : front = front' := by
    rcases List.prefix_or_prefix_of_prefix (List.prefix_append front _)
      (split ▸ List.prefix_append front' _) with initial | initial
    · exact isLine.front_eq_of_initial other initial
    · exact (other.front_eq_of_initial isLine initial).symm
  subst front_eq
  have rest_eq := List.append_cancel_left split
  have stretch_eq : stretch = stretch' := by
    rw [isLine.stretch_eq, other.stretch_eq, rest_eq]
  subst stretch_eq
  exact ⟨rfl, rfl, List.append_cancel_left rest_eq⟩

end

/-- Where a text is cut, the line reaches back to the last line feed and on to the next. -/
theorem exists_isLine_append (before after : List Char) : ∃ front head tail rear,
    before = front ++ head ∧ after = tail ++ rear ∧ head = lastLine before ∧
      IsLine (before ++ after) (before.count '\n') front (head ++ tail) rear := by
  obtain ⟨front, before_eq, ends⟩ := exists_append_lastLine before
  have after_eq := (List.takeWhile_append_dropWhile (p := (· ≠ '\n')) (l := after)).symm
  have head_single := newline_notMem_lastLine before
  have tail_single : '\n' ∉ after.takeWhile (· ≠ '\n') := by
    intro member
    simpa using List.mem_takeWhile_imp member
  refine ⟨front, lastLine before, after.takeWhile (· ≠ '\n'), after.dropWhile (· ≠ '\n'), before_eq,
    after_eq, rfl, ?_, ?_, starts_of_lastLine_eq_nil ends, ?_, ?_⟩
  · rw [← List.append_assoc, ← before_eq, List.append_assoc, ← after_eq]
  · have count := congrArg (List.count '\n') before_eq
    rw [List.count_append, List.count_eq_zero.mpr head_single] at count
    exact count.symm
  · exact fun member => (List.mem_append.mp member).elim head_single tail_single
  · cases rest : after.dropWhile (· ≠ '\n') with
    | nil => exact .inl rfl
    | cons c rear =>
        have stops := List.head?_dropWhile_not (· ≠ '\n') after
        rw [rest] at stops
        exact .inr (by simpa using stops)

/-- The lines of a text are what is shown of its stretches, in order. -/
theorem getElem?_lines_iff {line : List Char} :
    (lines text)[number]? = some line ↔ Shows text number line := by
  constructor
  · intro found
    obtain ⟨front, rear, text_eq, count_eq, starts, -⟩ := lineAt_of_getElem?_lines found
    obtain ⟨front', head, tail, rear', -, -, -, isLine⟩ := exists_isLine_append front (line ++ rear)
    rw [← List.append_assoc, ← text_eq, count_eq] at isLine
    refine ⟨front', head ++ tail, rear', isLine, ?_⟩
    exact Option.some.inj (found.symm.trans isLine.getElem?_lines)
  · rintro ⟨front, stretch, rear, isLine, rfl⟩
    exact isLine.getElem?_lines

end

/-! ## Places by offset -/

theorem takeBytes_encode_length (front rear : List Char) :
    takeBytes (encode front).length (front ++ rear) = front := by
  rw [← decodeSome_take_encode, encode_append, List.take_left]
  have whole := decodeSome_take_encode (encode front).length front
  rw [List.take_length] at whole
  rw [whole, length_encode, ← Nat.add_zero (byteLength front)]
  have taken := takeBytes_byteLength_add 0 front []
  rwa [List.append_nil, takeBytes, List.append_nil] at taken

/-- As many octets as a text has take as many characters of what begins like it. -/
theorem takeBytes_of_initial_append {line head tail : List Char} (initial : line <+: head ++ tail) :
    takeBytes (byteLength head) line = line.take head.length := by
  induction head generalizing line with
  | nil =>
      cases line with
      | nil => rfl
      | cons c line =>
          rw [byteLength, takeBytes, if_neg (Nat.not_le.mpr c.utf8Size_pos)]
          rfl
  | cons c head ih =>
      cases line with
      | nil => rfl
      | cons d line =>
          obtain ⟨rfl, below⟩ := List.cons_prefix_cons.mp initial
          rw [byteLength, takeBytes, if_pos (Nat.le_add_right _ _), Nat.add_sub_cancel_left,
            ih below, List.length_cons, List.take_succ_cons]

/-- Octets after the last line feed are those of the characters after it. -/
theorem takeWhile_encode_append {front head : List Char}
    (starts : front = [] ∨ front.getLast? = some '\n') (single : '\n' ∉ head) :
    (encode (front ++ head)).reverse.takeWhile (· ≠ 10) = (encode head).reverse := by
  have plain : ∀ octet ∈ (encode head).reverse, decide (octet ≠ 10) = true := by
    intro octet member
    refine decide_eq_true fun newline => single ((newline_mem_encode_iff head).mp ?_)
    exact newline ▸ List.mem_reverse.mp member
  have stops : (encode front).reverse.takeWhile (· ≠ 10) = [] := by
    rcases starts with rfl | newline
    · rw [encode_nil]
      rfl
    · obtain ⟨before, rfl⟩ := List.getLast?_eq_some_iff.mp newline
      have newline_eq : encode ['\n'] = [10] := encode_eq ['\n']
      rw [encode_append, newline_eq, List.reverse_append]
      rfl
  rw [encode_append, List.reverse_append, List.takeWhile_append_of_pos plain, stops,
    List.append_nil]

theorem octetPoint_encode {front head : List Char} (rest : List Char)
    (starts : front = [] ∨ front.getLast? = some '\n') (single : '\n' ∉ head) :
    octetPoint (encode (front ++ head ++ rest)) (encode (front ++ head)).length =
      ⟨(front ++ head).count '\n', byteLength head⟩ := by
  rw [octetPoint, encode_append (front ++ head), List.take_left, count_newline_encode,
    takeWhile_encode_append starts single, List.length_reverse, length_encode]

theorem pointAt_encode_length {front head : List Char} (rest : List Char)
    (starts : front = [] ∨ front.getLast? = some '\n') (single : '\n' ∉ head) :
    pointAt (front ++ head ++ rest) (encode (front ++ head)).length =
      ⟨(front ++ head).count '\n', byteLength head⟩ := by
  have last : lastLine (front ++ head) = head := by
    rw [lastLine_append_of_notMem front single, lastLine_eq_nil_of_starts starts, List.nil_append]
  rw [pointAt, takeBytes_encode_length, last, length_encode, byteLength_append]
  congr 1
  omega

theorem octetColumn_eq (allLines : List (List Char)) (point : Point) :
    octetColumn allLines point = column allLines point := by
  rw [octetColumn, decodeSome_take_encode, column]

/-- An offset that divides no character has its place on a line. -/
theorem exists_isPlaced {text : List Char} {offset : Nat}
    (boundary : IsBoundary (encode text) offset) :
    ∃ front head tail rear, IsPlaced text offset front head tail rear := by
  obtain ⟨before, after, rfl, rfl⟩ := isBoundary_encode_iff.mp boundary
  obtain ⟨front, head, tail, rear, rfl, -, -, isLine⟩ := exists_isLine_append before after
  have single : '\n' ∉ head := fun member => isLine.single (List.mem_append_left tail member)
  have point := pointAt_encode_length after isLine.starts single
  have octets := octetPoint_encode after isLine.starts single
  have row_eq := congrArg Point.row point
  have found := isLine.getElem?_lines
  refine ⟨front, head, tail, rear, ?_, rfl, point.trans octets.symm, row_lt_length_lines _ _, ?_, ?_,
    ?_⟩
  · rwa [row_eq]
  · rwa [row_eq]
  · rw [column, point, found, Option.getD_some,
      takeBytes_of_initial_append (shown_initial (head ++ tail) rear), List.length_take,
      Nat.add_comm]
  · rw [octetColumn_eq, octets, ← point]

/-- The row of an offset is the number of the line on which it lies. -/
theorem row_eq_iff_liesOn {text : List Char} {offset number : Nat}
    (boundary : IsBoundary (encode text) offset) :
    (pointAt text offset).row = number ↔ LiesOn text number offset := by
  constructor
  · rintro rfl
    obtain ⟨front, head, tail, rear, placed⟩ := exists_isPlaced boundary
    refine ⟨front, head ++ tail, rear, placed.line, ?_, ?_⟩
    · rw [placed.cut, encode_append, List.length_append]
      exact Nat.le_add_right _ _
    · rw [placed.cut, ← List.append_assoc, encode_append (front ++ head), List.length_append]
      exact Nat.le_add_right _ _
  · rintro ⟨front, stretch, rear, isLine, starts, stops⟩
    -- Rows grow with offsets, and the two ends of the line have the same one.
    have lower := row_mono starts text
    have upper := row_mono stops text
    have front_row : (pointAt text (encode front).length).row = number := by
      rw [isLine.split, List.append_assoc, pointAt, takeBytes_encode_length, isLine.number]
    have stretch_row : (pointAt text (encode (front ++ stretch)).length).row = number := by
      rw [isLine.split, pointAt, takeBytes_encode_length]
      simp only [List.count_append, isLine.number, List.count_eq_zero.mpr isLine.single,
        Nat.add_zero]
    omega

end Text
end Hazard
