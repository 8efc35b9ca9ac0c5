import Hazard.Text.Slice
import Mathlib.Data.List.Infix

/-!
# Words in a text

How often a word stands in a text is told by a scan from left to right, in which every place starts
after the place before it has ended.  No other choice of places has more of them.  So the number is
found again on both sides of a word that cannot overlap the one that is counted, which is what becomes
of it when a part of the text is replaced.
-/

namespace Hazard
namespace Text

/-- How often `needle` stands in a text of which the first `skip` characters are left out. -/
def occurrencesFrom (needle : List Char) : Nat → List Char → Nat
  | _, [] => 0
  | skip + 1, _ :: rest => occurrencesFrom needle skip rest
  | 0, c :: rest =>
    if needle.isPrefixOf (c :: rest) then occurrencesFrom needle (needle.length - 1) rest + 1
    else occurrencesFrom needle 0 rest

/-- How often `needle` stands in a text, at places that do not overlap. -/
def occurrences (needle text : List Char) : Nat := occurrencesFrom needle 0 text

/-- The text has `count` pieces, one after the other, that are `needle`. -/
inductive Repeats (needle : List Char) : Nat → List Char → Prop
  | zero (text : List Char) : Repeats needle 0 text
  | next (front : List Char) {count : Nat} {rear : List Char} :
      Repeats needle count rear → Repeats needle (count + 1) (front ++ needle ++ rear)

/-! ## The first place -/

/-- The text is cut at a place of `needle`, and no place starts earlier. -/
structure FirstCut (needle text before after : List Char) : Prop where
  /-- The text is cut around the place. -/
  split : text = before ++ needle ++ after
  /-- No place starts before it. -/
  first : ∀ front rear, text = front ++ needle ++ rear → before.length ≤ front.length

theorem cutAt?_eq_none {needle text : List Char} (missing : cutAt? needle text = none) :
    ¬ needle <:+: text := by
  induction text with
  | nil =>
      rw [List.infix_nil]
      rintro rfl
      contradiction
  | cons c rest ih =>
      rw [cutAt?] at missing
      split at missing
      · contradiction
      · rename_i elsewhere
        rw [List.infix_cons_iff]
        rintro (start | within)
        · exact elsewhere (List.isPrefixOf_iff_prefix.mpr start)
        · exact ih (Option.map_eq_none_iff.mp missing) within

theorem firstCut_of_cutAt? {needle text before after : List Char}
    (cut : cutAt? needle text = some (before, after)) : FirstCut needle text before after := by
  induction text generalizing before with
  | nil =>
      rw [cutAt?] at cut
      split at cut
      · rename_i empty
        obtain ⟨rfl, rfl⟩ := Prod.mk.inj (Option.some.inj cut)
        obtain rfl := List.isEmpty_iff.mp empty
        exact ⟨rfl, fun _ _ _ => Nat.zero_le _⟩
      · contradiction
  | cons c rest ih =>
      rw [cutAt?] at cut
      split at cut
      · rename_i start
        obtain ⟨rfl, rfl⟩ := Prod.mk.inj (Option.some.inj cut)
        refine ⟨?_, fun _ _ _ => Nat.zero_le _⟩
        exact (List.prefix_iff_eq_append.mp (List.isPrefixOf_iff_prefix.mp start)).symm
      · rename_i elsewhere
        obtain ⟨sides, later, same⟩ := Option.map_eq_some_iff.mp cut
        obtain ⟨rfl, rfl⟩ := Prod.mk.inj same
        obtain ⟨split, first⟩ := ih later
        refine ⟨congrArg (c :: ·) split, ?_⟩
        intro front rear place
        cases front with
        | nil =>
            have start : needle <+: c :: rest := ⟨rear, place.symm⟩
            exact absurd (List.isPrefixOf_iff_prefix.mpr start) elsewhere
        | cons d front =>
            exact Nat.succ_le_succ (first front rear (List.cons.inj place).2)

namespace FirstCut

variable {needle text before after : List Char}

/-- What follows any place follows the first one. -/
theorem suffix (cut : FirstCut needle text before after) {front rear : List Char}
    (place : text = front ++ needle ++ rear) : rear <:+ after := by
  have here : after <:+ text := ⟨before ++ needle, cut.split.symm⟩
  have there : rear <:+ text := ⟨front ++ needle, place.symm⟩
  apply List.suffix_of_suffix_length_le there here
  have lengths := congrArg List.length (cut.split.symm.trans place)
  have first := cut.first front rear place
  simp only [List.length_append] at lengths
  omega

/-- No place ends before the first one does. -/
theorem not_infix (cut : FirstCut needle text before after) {kept : List Char}
    (initial : kept <+: needle) (shorter : kept.length < needle.length) :
    ¬ needle <:+: before ++ kept := by
  rintro ⟨front, rear, place⟩
  obtain ⟨lost, rfl⟩ := initial
  have whole : text = front ++ (kept ++ lost) ++ (rear ++ (lost ++ after)) := by
    rw [← List.append_assoc, place, cut.split, List.append_assoc, List.append_assoc,
      List.append_assoc]
  have first := cut.first _ _ whole
  have lengths := congrArg List.length place
  simp only [List.length_append] at lengths shorter
  omega

end FirstCut

/-! ## Counting -/

theorem Repeats.append_left {needle rear : List Char} {count : Nat} (front : List Char)
    (repeats : Repeats needle count rear) : Repeats needle count (front ++ rear) := by
  cases repeats with
  | zero => exact .zero _
  | next gap rest =>
      rw [← List.append_assoc, ← List.append_assoc]
      exact .next (front ++ gap) rest

theorem Repeats.append {needle front rear : List Char} {count more : Nat}
    (repeats : Repeats needle count front) (repeats' : Repeats needle more rear) :
    Repeats needle (count + more) (front ++ rear) := by
  induction repeats with
  | zero text =>
      rw [Nat.zero_add]
      exact repeats'.append_left text
  | next gap _ ih =>
      rw [Nat.add_right_comm, List.append_assoc]
      exact .next gap ih

/-- The first place can be taken first. -/
theorem FirstCut.repeats_succ_iff {needle text before after : List Char} {count : Nat}
    (cut : FirstCut needle text before after) :
    Repeats needle (count + 1) text ↔ Repeats needle count after := by
  constructor
  · generalize known : count + 1 = total
    rintro (_ | ⟨front, rest⟩)
    · contradiction
    · obtain rfl := Nat.succ.inj known
      obtain ⟨gap, rfl⟩ := cut.suffix rfl
      exact rest.append_left gap
  · intro rest
    rw [cut.split]
    exact .next before rest

theorem occurrencesFrom_eq_drop (needle : List Char) (skip : Nat) (text : List Char) :
    occurrencesFrom needle skip text = occurrences needle (text.drop skip) := by
  induction text generalizing skip with
  | nil => cases skip <;> rfl
  | cons c rest ih =>
      cases skip with
      | zero => rfl
      | succ skip => exact ih skip

/-- The count goes on after the first place. -/
theorem occurrences_eq_cut {needle : List Char} (nonempty : needle ≠ []) (text : List Char) :
    occurrences needle text =
      match cutAt? needle text with
      | some (_, after) => occurrences needle after + 1
      | none => 0 := by
  induction text with
  | nil =>
      rw [cutAt?, if_neg (by simpa using nonempty)]
      rfl
  | cons c rest ih =>
      obtain ⟨d, tail, rfl⟩ := List.exists_cons_of_ne_nil nonempty
      rw [cutAt?, occurrences, occurrencesFrom]
      split
      · rw [occurrencesFrom_eq_drop]
        rfl
      · rw [← occurrences, ih]
        cases cutAt? (d :: tail) rest <;> rfl

/-- The count is the greatest number of places that do not overlap. -/
theorem le_occurrences_iff {needle : List Char} (nonempty : needle ≠ []) {count : Nat}
    {text : List Char} : count ≤ occurrences needle text ↔ Repeats needle count text := by
  -- The induction is on the number of places, each of which is the first one of what remains.
  induction count generalizing text with
  | zero => exact ⟨fun _ => .zero text, fun _ => Nat.zero_le _⟩
  | succ count ih =>
      rw [occurrences_eq_cut nonempty]
      cases cut : cutAt? needle text with
      | none =>
          refine ⟨fun le => absurd le (Nat.not_succ_le_zero count), ?_⟩
          rintro (_ | ⟨front, rest⟩)
          exact absurd ⟨_, _, rfl⟩ (cutAt?_eq_none cut)
      | some sides => rw [Nat.succ_le_succ_iff, ih, (firstCut_of_cutAt? cut).repeats_succ_iff]

theorem repeats_occurrences {needle : List Char} (nonempty : needle ≠ []) (text : List Char) :
    Repeats needle (occurrences needle text) text :=
  (le_occurrences_iff nonempty).mp le_rfl

theorem occurrences_pos_iff {needle : List Char} (nonempty : needle ≠ []) {text : List Char} :
    0 < occurrences needle text ↔ needle <:+: text := by
  rw [← Nat.succ_le_iff, le_occurrences_iff nonempty]
  constructor
  · rintro (_ | ⟨front, rest⟩)
    exact ⟨front, _, rfl⟩
  · rintro ⟨front, rear, rfl⟩
    exact .next front (.zero rear)

theorem occurrences_eq_zero {needle : List Char} (nonempty : needle ≠ []) {text : List Char}
    (missing : ¬ needle <:+: text) : occurrences needle text = 0 :=
  Nat.eq_zero_of_not_pos fun found => missing ((occurrences_pos_iff nonempty).mp found)

/-- The places in two texts are places in the text that they make up. -/
theorem occurrences_add_le {needle : List Char} (nonempty : needle ≠ []) (front rear : List Char) :
    occurrences needle front + occurrences needle rear ≤ occurrences needle (front ++ rear) :=
  (le_occurrences_iff nonempty).mpr
    ((repeats_occurrences nonempty front).append (repeats_occurrences nonempty rear))

/-- The first place and those that follow it. -/
theorem FirstCut.occurrences_eq {needle text before after : List Char} (nonempty : needle ≠ [])
    (cut : FirstCut needle text before after) :
    occurrences needle text = occurrences needle after + 1 := by
  apply eq_of_forall_le_iff
  rintro (_ | count)
  · exact ⟨fun _ => Nat.zero_le _, fun _ => Nat.zero_le _⟩
  · rw [Nat.succ_le_succ_iff, le_occurrences_iff nonempty, le_occurrences_iff nonempty,
      cut.repeats_succ_iff]

/-! ## Words that do not overlap -/

/-- One word can start inside another, as far as both go. -/
def StartsIn (outer inner : List Char) : Prop :=
  ∃ count < outer.length, outer.drop count <+: inner ∨ inner <+: outer.drop count

instance (outer inner : List Char) : Decidable (StartsIn outer inner) :=
  inferInstanceAs (Decidable (∃ count < outer.length, _))

/-- Two words have no place in common, wherever they stand in a text. -/
def Apart (first second : List Char) : Prop := ¬ StartsIn first second ∧ ¬ StartsIn second first

instance (first second : List Char) : Decidable (Apart first second) :=
  inferInstanceAs (Decidable (_ ∧ _))

theorem startsIn_of_append {outer inner front shared rear rest : List Char}
    (outer_eq : outer = front ++ shared) (nonempty : shared ≠ [])
    (same : inner ++ rest = shared ++ rear) : StartsIn outer inner := by
  subst outer_eq
  refine ⟨front.length, ?_, ?_⟩
  · rw [List.length_append]
    exact Nat.lt_add_of_pos_right (List.length_pos_iff.mpr nonempty)
  · rw [List.drop_left]
    have within : inner <+: shared ++ rear := ⟨rest, same⟩
    exact List.prefix_or_prefix_of_prefix (List.prefix_append shared rear) within

/-- A word that cannot overlap another stands before it or after it. -/
theorem Apart.before_or_after {needle wall front rear left right : List Char}
    (apart : Apart needle wall) (same : front ++ needle ++ rear = left ++ wall ++ right) :
    (∃ gap, left = front ++ needle ++ gap ∧ rear = gap ++ wall ++ right) ∨
      ∃ gap, right = gap ++ needle ++ rear := by
  rw [List.append_assoc, List.append_assoc, List.append_eq_append_iff] at same
  rcases same with ⟨gap, rfl, same⟩ | ⟨gap, rfl, same⟩
  · rcases List.append_eq_append_iff.mp same with ⟨gap', rfl, rest⟩ | ⟨shared, needle_eq, rest⟩
    · exact .inl ⟨gap', (List.append_assoc _ _ _).symm, rest.trans (List.append_assoc _ _ _).symm⟩
    · rcases eq_or_ne shared [] with rfl | nonempty
      · exact .inl ⟨[], by simp [needle_eq], by simpa using rest.symm⟩
      · exact absurd (startsIn_of_append needle_eq nonempty rest) apart.1
  · rcases List.append_eq_append_iff.mp same with ⟨gap', rfl, rest⟩ | ⟨shared, wall_eq, rest⟩
    · exact .inr ⟨gap', rest.trans (List.append_assoc _ _ _).symm⟩
    · rcases eq_or_ne shared [] with rfl | nonempty
      · exact .inr ⟨[], by simpa using rest.symm⟩
      · exact absurd (startsIn_of_append wall_eq nonempty rest) apart.2

theorem Repeats.divide {needle wall left right : List Char} {count : Nat}
    (apart : Apart needle wall) (repeats : Repeats needle count (left ++ wall ++ right)) :
    ∃ early late, early + late = count ∧ Repeats needle early left ∧ Repeats needle late right := by
  generalize known : left ++ wall ++ right = text at repeats
  induction repeats generalizing left with
  | zero => exact ⟨0, 0, rfl, .zero left, .zero right⟩
  | @next front count rear rest ih =>
      rcases apart.before_or_after known.symm with ⟨gap, rfl, split⟩ | ⟨gap, rfl⟩
      · obtain ⟨early, late, rfl, before, after⟩ := ih split.symm
        exact ⟨early + 1, late, by omega, .next front before, after⟩
      · exact ⟨0, count + 1, Nat.zero_add _, .zero left, .next gap rest⟩

/-- A word is counted on both sides of a word that it cannot overlap. -/
theorem Apart.occurrences_eq {needle wall : List Char} (apart : Apart needle wall)
    (nonempty : needle ≠ []) (left right : List Char) :
    occurrences needle (left ++ wall ++ right) =
      occurrences needle left + occurrences needle right := by
  apply Nat.le_antisymm
  · obtain ⟨early, late, total, before, after⟩ :=
      (repeats_occurrences nonempty (left ++ wall ++ right)).divide apart
    rw [← total]
    exact Nat.add_le_add ((le_occurrences_iff nonempty).mpr before)
      ((le_occurrences_iff nonempty).mpr after)
  · calc occurrences needle left + occurrences needle right
        ≤ occurrences needle left + occurrences needle wall + occurrences needle right := by omega
      _ ≤ occurrences needle (left ++ wall) + occurrences needle right :=
          Nat.add_le_add_right (occurrences_add_le nonempty left wall) _
      _ ≤ occurrences needle (left ++ wall ++ right) := occurrences_add_le nonempty _ right

end Text
end Hazard
