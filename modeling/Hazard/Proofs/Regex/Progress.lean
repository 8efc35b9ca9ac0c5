import Hazard.Proofs.Regex.Fits
import Mathlib.Data.Nat.Find

/-!
# Where a fit lies

Whatever an expression is, captures and look-around included, the place where a fit ends is reached
from the place where it starts by moving over characters of the text.  So every fit that a search
finds is a piece of the text, and its two ends are the numbers of characters before them.  A search
finds something exactly if the expression fits somewhere, and then the fit that starts leftmost.

A group that has caught something keeps what it caught or catches something else, so a group that every
way through an expression passes has caught something in every fit.
-/

namespace Hazard
namespace Regex

namespace Cursor

/-- Moving over `text` leads from one place to the other; the groups may differ. -/
structure Leads (cursor : Cursor) (text : List Char) (further : Cursor) : Prop where
  /-- The position counts the characters moved over. -/
  position : further.position = cursor.position + text.length
  /-- The characters moved over stand before the place, the latest in front. -/
  before : further.before = text.reverse ++ cursor.before
  /-- They stood ahead, and the rest still does. -/
  after : cursor.after = text ++ further.after

/-- Some text ahead leads from one place to the other. -/
def Reaches (cursor further : Cursor) : Prop := ∃ text, cursor.Leads text further

theorem Reaches.refl (cursor : Cursor) : cursor.Reaches cursor := ⟨[], rfl, rfl, rfl⟩

theorem Reaches.trans {cursor middle further : Cursor} :
    cursor.Reaches middle → middle.Reaches further → cursor.Reaches further := by
  rintro ⟨head, position, before, after⟩ ⟨tail, position', before', after'⟩
  refine ⟨head ++ tail, ?_, ?_, ?_⟩
  · rw [position', position, List.length_append, Nat.add_assoc]
  · rw [before', before, List.reverse_append, List.append_assoc]
  · rw [after, after', List.append_assoc]

theorem Reaches.regroup {cursor further : Cursor} (reaches : cursor.Reaches further)
    (groups : List (Nat × Capture)) : cursor.Reaches { further with groups := groups } := by
  obtain ⟨text, position, before, after⟩ := reaches
  exact ⟨text, position, before, after⟩

/-- The second place is reached from the first, and no group that had caught something has lost it. -/
structure Follows (cursor further : Cursor) : Prop where
  /-- Some text leads from one place to the other. -/
  reaches : cursor.Reaches further
  /-- What has caught something there has caught something here. -/
  keeps : ∀ index, (cursor.captured index).isSome → (further.captured index).isSome

theorem Follows.refl (cursor : Cursor) : cursor.Follows cursor := ⟨.refl cursor, fun _ kept => kept⟩

theorem Follows.trans {cursor middle further : Cursor} (first : cursor.Follows middle)
    (second : middle.Follows further) : cursor.Follows further :=
  ⟨first.reaches.trans second.reaches, fun index kept => second.keeps index (first.keeps index kept)⟩

theorem captured_capture (cursor origin : Cursor) (caught index : Nat) :
    ((cursor.capture caught origin).captured index).isSome ↔
      index = caught ∨ (cursor.captured index).isSome := by
  rw [captured, captured, capture, List.lookup_cons]
  cases same : index == caught with
  | true => exact ⟨fun _ => .inl (beq_iff_eq.mp same), fun _ => rfl⟩
  | false => exact ⟨.inr, fun either => either.resolve_left (beq_eq_false_iff_ne.mp same)⟩

theorem follows_capture {cursor origin : Cursor} (follows : origin.Follows cursor) (caught : Nat) :
    origin.Follows (cursor.capture caught origin) :=
  ⟨follows.reaches.regroup _, fun index kept =>
    (captured_capture cursor origin caught index).mpr (.inr (follows.keeps index kept))⟩

theorem follows_of_step {cursor further : Cursor} {c : Char}
    (step : cursor.step = some (c, further)) : cursor.Follows further := by
  rw [Cursor.step] at step
  split at step
  · contradiction
  · rename_i d rest after
    obtain ⟨rfl, rfl⟩ := Prod.mk.inj (Option.some.inj step)
    exact ⟨⟨[d], rfl, rfl, after⟩, fun _ kept => kept⟩

theorem follows_of_follow {fold : Fold} {text : List Char} {cursor further : Cursor}
    (followed : cursor.follow fold text = some further) : cursor.Follows further := by
  induction text generalizing cursor with
  | nil =>
      obtain rfl := Option.some.inj followed
      exact .refl _
  | cons wanted rest ih =>
      rw [follow] at followed
      split at followed
      · contradiction
      · rename_i step
        split at followed
        · exact (follows_of_step step).trans (ih followed)
        · contradiction

/-- Going back leaves the groups as they are. -/
theorem groups_of_back {count : Nat} {cursor earlier : Cursor}
    (went : cursor.back count = some earlier) : earlier.groups = cursor.groups := by
  induction count generalizing cursor with
  | zero => rw [Option.some.inj went]
  | succ count ih =>
      rw [back] at went
      split at went
      · contradiction
      · exact (ih went).trans rfl

end Cursor

/-- A step of a matcher ends where what remains accepts a place that follows. -/
def Advances (body : Continuation → Continuation) : Prop :=
  ∀ (next : Continuation) (cursor found : Cursor), body next cursor = some found →
    ∃ further, cursor.Follows further ∧ next further = some found

/-! ## Repetitions -/

theorem Advances.rounds {body : Continuation → Continuation} (advances : Advances body)
    (count : Nat) : Advances (fun next => rounds body next count) := by
  induction count with
  | zero => exact fun next cursor found accepted => ⟨cursor, .refl cursor, accepted⟩
  | succ count ih =>
      intro next cursor found accepted
      obtain ⟨middle, first, accepted⟩ := advances _ _ _ accepted
      obtain ⟨further, second, accepted⟩ := ih _ _ _ accepted
      exact ⟨further, first.trans second, accepted⟩

theorem Advances.greedyRounds {body : Continuation → Continuation} (advances : Advances body)
    (fuel : Nat) (last : Option Nat) :
    Advances (fun next => greedyRounds body next fuel last) := by
  induction fuel generalizing last with
  | zero => exact fun next cursor found accepted => ⟨cursor, .refl cursor, accepted⟩
  | succ fuel ih =>
      intro next cursor found accepted
      beta_reduce at accepted
      rw [Regex.greedyRounds] at accepted
      split at accepted
      · exact ⟨cursor, .refl cursor, accepted⟩
      · rcases Option.or_eq_some_iff.mp accepted with accepted | ⟨-, accepted⟩
        · obtain ⟨middle, first, accepted⟩ := advances _ _ _ accepted
          obtain ⟨further, second, accepted⟩ := ih _ _ _ _ accepted
          exact ⟨further, first.trans second, accepted⟩
        · exact ⟨cursor, .refl cursor, accepted⟩

theorem Advances.reluctantRounds {body : Continuation → Continuation} (advances : Advances body)
    (fuel : Nat) (last : Option Nat) :
    Advances (fun next => reluctantRounds body next fuel last) := by
  induction fuel generalizing last with
  | zero => exact fun next cursor found accepted => ⟨cursor, .refl cursor, accepted⟩
  | succ fuel ih =>
      intro next cursor found accepted
      beta_reduce at accepted
      rw [Regex.reluctantRounds] at accepted
      split at accepted
      · rename_i here
        exact ⟨cursor, .refl cursor, here.trans accepted⟩
      · split at accepted
        · contradiction
        · obtain ⟨middle, first, accepted⟩ := advances _ _ _ accepted
          obtain ⟨further, second, accepted⟩ := ih _ _ _ _ accepted
          exact ⟨further, first.trans second, accepted⟩

theorem Advances.follows {body : Continuation → Continuation} (advances : Advances body)
    {cursor further : Cursor} (found : body some cursor = some further) :
    cursor.Follows further := by
  obtain ⟨middle, follows, same⟩ := advances _ _ _ found
  obtain rfl := Option.some.inj same
  exact follows

theorem Advances.follows_firmRounds {body : Continuation → Continuation}
    (advances : Advances body) (fuel : Nat) (last : Option Nat) (cursor : Cursor) :
    cursor.Follows (firmRounds body fuel last cursor) := by
  induction fuel generalizing last cursor with
  | zero => exact .refl cursor
  | succ fuel ih =>
      rw [firmRounds]
      split
      · exact .refl cursor
      · split
        · exact (advances.follows ‹_›).trans (ih _ _)
        · exact .refl cursor

theorem Advances.follows_firmly {body : Continuation → Continuation} (advances : Advances body)
    {count : Nat} {cursor further : Cursor} (found : firmly body count cursor = some further) :
    cursor.Follows further := by
  induction count generalizing cursor with
  | zero =>
      obtain rfl := Option.some.inj found
      exact .refl _
  | succ count ih =>
      obtain ⟨middle, first, found⟩ := Option.bind_eq_some_iff.mp found
      exact (advances.follows first).trans (ih found)

/-! ## Expressions -/

/-- The matcher of every expression only moves over characters ahead. -/
theorem advances_run (r : Regex) : Advances r.run := by
  induction r with
  | empty => exact fun next cursor found accepted => ⟨cursor, .refl cursor, accepted⟩
  | one test =>
      intro next cursor found accepted
      rw [run] at accepted
      split at accepted
      · contradiction
      · rename_i step
        split at accepted
        · exact ⟨_, Cursor.follows_of_step step, accepted⟩
        · contradiction
  | «at» anchor =>
      intro next cursor found accepted
      rw [run] at accepted
      split at accepted
      · exact ⟨cursor, .refl cursor, accepted⟩
      · contradiction
  | seq first second advances advances' =>
      intro next cursor found accepted
      obtain ⟨middle, follows, accepted⟩ := advances _ _ _ accepted
      obtain ⟨further, follows', accepted⟩ := advances' _ _ _ accepted
      exact ⟨further, follows.trans follows', accepted⟩
  | alt first second advances advances' =>
      intro next cursor found accepted
      rcases Option.or_eq_some_iff.mp accepted with accepted | ⟨-, accepted⟩
      · exact advances _ _ _ accepted
      · exact advances' _ _ _ accepted
  | repeated eagerness least most body advances =>
      intro next cursor found accepted
      cases eagerness with
      | greedy =>
          obtain ⟨middle, follows, accepted⟩ := advances.rounds least _ _ _ accepted
          obtain ⟨further, follows', accepted⟩ := advances.greedyRounds _ none _ _ _ accepted
          exact ⟨further, follows.trans follows', accepted⟩
      | reluctant =>
          obtain ⟨middle, follows, accepted⟩ := advances.rounds least _ _ _ accepted
          obtain ⟨further, follows', accepted⟩ := advances.reluctantRounds _ none _ _ _ accepted
          exact ⟨further, follows.trans follows', accepted⟩
      | possessive =>
          rw [run] at accepted
          split at accepted
          · contradiction
          · rename_i first
            exact ⟨_, (advances.follows_firmly first).trans
              (advances.follows_firmRounds _ none _), accepted⟩
  | group index body advances =>
      intro next cursor found accepted
      obtain ⟨further, follows, accepted⟩ := advances _ _ _ accepted
      exact ⟨_, Cursor.follows_capture follows index, accepted⟩
  | atomic body advances =>
      intro next cursor found accepted
      obtain ⟨further, taken, accepted⟩ := Option.bind_eq_some_iff.mp accepted
      exact ⟨further, advances.follows taken, accepted⟩
  | ahead negated body advances =>
      intro next cursor found accepted
      unfold run at accepted
      split at accepted
      · rename_i taken
        exact ⟨_, ⟨(Cursor.Reaches.refl cursor).regroup _, (advances.follows taken).keeps⟩, accepted⟩
      · exact ⟨cursor, .refl cursor, accepted⟩
      · contradiction
  | behind negated width body advances =>
      intro next cursor found accepted
      unfold run at accepted
      split at accepted
      · rename_i taken
        obtain ⟨earlier, went, taken⟩ := Option.bind_eq_some_iff.mp taken
        refine ⟨_, ⟨(Cursor.Reaches.refl cursor).regroup _, fun index kept => ?_⟩, accepted⟩
        refine (advances.follows taken).keeps index ?_
        rwa [Cursor.captured, Cursor.groups_of_back went]
      · exact ⟨cursor, .refl cursor, accepted⟩
      · contradiction
  | same index fold =>
      intro next cursor found accepted
      rw [run] at accepted
      split at accepted
      · contradiction
      · obtain ⟨further, followed, accepted⟩ := Option.bind_eq_some_iff.mp accepted
        exact ⟨further, Cursor.follows_of_follow followed, accepted⟩
  | ifGroup index yes no advances advances' =>
      intro next cursor found accepted
      rw [run] at accepted
      split at accepted
      · exact advances _ _ _ accepted
      · exact advances' _ _ _ accepted

/-! ## Groups -/

/-- Every way through the expression passes the group. -/
def passes (index : Nat) : Regex → Bool
  | .group caught body => caught == index || body.passes index
  | .seq first second => first.passes index || second.passes index
  | .alt first second => first.passes index && second.passes index
  | _ => false

/-- A group that every way passes has caught something where what remains goes on. -/
theorem captured_of_passes {r : Regex} {index : Nat} (passed : r.passes index = true)
    (next : Continuation) (cursor found : Cursor) (accepted : r.run next cursor = some found) :
    ∃ further, cursor.Follows further ∧ (further.captured index).isSome ∧
      next further = some found := by
  induction r generalizing next cursor found with
  | group caught body ih =>
      rcases Bool.or_eq_true_iff.mp passed with here | inside
      · obtain ⟨further, follows, accepted⟩ := advances_run body _ _ _ accepted
        exact ⟨_, Cursor.follows_capture follows caught,
          (Cursor.captured_capture further cursor caught index).mpr (.inl (beq_iff_eq.mp here).symm),
          accepted⟩
      · obtain ⟨further, follows, kept, accepted⟩ := ih inside _ _ _ accepted
        exact ⟨_, Cursor.follows_capture follows caught,
          (Cursor.captured_capture further cursor caught index).mpr (.inr kept), accepted⟩
  | seq first second ih ih' =>
      rcases Bool.or_eq_true_iff.mp passed with passed | passed
      · obtain ⟨middle, follows, kept, accepted⟩ := ih passed _ _ _ accepted
        obtain ⟨further, follows', accepted⟩ := advances_run second _ _ _ accepted
        exact ⟨further, follows.trans follows', follows'.keeps index kept, accepted⟩
      · obtain ⟨middle, follows, accepted⟩ := advances_run first _ _ _ accepted
        obtain ⟨further, follows', kept, accepted⟩ := ih' passed _ _ _ accepted
        exact ⟨further, follows.trans follows', kept, accepted⟩
  | alt first second ih ih' =>
      obtain ⟨passed, passed'⟩ := Bool.and_eq_true_iff.mp passed
      rcases Option.or_eq_some_iff.mp accepted with accepted | ⟨-, accepted⟩
      · exact ih passed _ _ _ accepted
      · exact ih' passed' _ _ _ accepted
  | _ => exact absurd passed Bool.false_ne_true

/-! ## Fits -/

/-- The fit is a piece of the text, from one number of characters to the other. -/
structure Match.LiesIn (found : Match) (text : List Char) : Prop where
  cut : ∃ front rear, text = front ++ found.text ++ rear ∧ found.start = front.length
  stop : found.stop = found.start + found.text.length

theorem liesIn_of_matchAt {r : Regex} {cursor : Cursor} {found : Match}
    (matched : r.matchAt cursor = some found) :
    ∃ rear, cursor.after = found.text ++ rear ∧ found.start = cursor.position ∧
      found.stop = found.start + found.text.length := by
  obtain ⟨finish, taken, rfl⟩ := Option.map_eq_some_iff.mp matched
  obtain ⟨text, position, -, after⟩ := ((advances_run r).follows taken).reaches
  have text_eq : (Match.between cursor finish).text = text := by
    rw [Match.between, after, position, Nat.add_sub_cancel_left, List.take_left]
  refine ⟨finish.after, ?_, rfl, ?_⟩
  · rw [text_eq, after]
  · rw [text_eq]
    exact position

theorem liesIn_of_searchFrom {r : Regex} {position : Nat} {before text : List Char}
    {found : Match} (searched : r.searchFrom position before text = some found) :
    ∃ front rear, text = front ++ found.text ++ rear ∧ found.start = position + front.length ∧
      found.stop = found.start + found.text.length := by
  induction text generalizing position before with
  | nil =>
      obtain ⟨rear, after, start, stop⟩ := liesIn_of_matchAt searched
      exact ⟨[], rear, after, start, stop⟩
  | cons c rest ih =>
      rcases Option.or_eq_some_iff.mp searched with matched | ⟨-, searched⟩
      · obtain ⟨rear, after, start, stop⟩ := liesIn_of_matchAt matched
        exact ⟨[], rear, after, start, stop⟩
      · obtain ⟨front, rear, split, start, stop⟩ := ih searched
        refine ⟨c :: front, rear, by simp [split], ?_, stop⟩
        rw [start, List.length_cons]
        omega

/-- What a search finds is a piece of the text it searches. -/
theorem liesIn_of_search {r : Regex} {text : List Char} {found : Match}
    (searched : r.search text = some found) : found.LiesIn text := by
  obtain ⟨front, rear, split, start, stop⟩ := liesIn_of_searchFrom searched
  exact ⟨⟨front, rear, split, start.trans (Nat.zero_add _)⟩, stop⟩

/-! ## All fits -/

/-- The fit is a piece of the text ahead, and so is what remains after it. -/
structure Match.LiesAhead (found : Match) (text : List Char) : Prop where
  piece : found.text <:+: text
  rest : found.finish.after <:+ text

theorem Match.LiesAhead.of_suffix {found : Match} {text whole : List Char}
    (ahead : found.LiesAhead text) (suffix : text <:+ whole) : found.LiesAhead whole :=
  ⟨ahead.piece.trans suffix.isInfix, ahead.rest.trans suffix⟩

theorem liesAhead_between {origin finish : Cursor} (reaches : origin.Reaches finish) :
    (Match.between origin finish).LiesAhead origin.after := by
  obtain ⟨text, -, -, after⟩ := reaches
  exact ⟨(List.take_prefix _ _).isInfix, ⟨text, after.symm⟩⟩

theorem liesAhead_of_matchAt {r : Regex} {cursor : Cursor} {found : Match}
    (matched : r.matchAt cursor = some found) : found.LiesAhead cursor.after := by
  obtain ⟨finish, taken, rfl⟩ := Option.map_eq_some_iff.mp matched
  exact liesAhead_between ((advances_run r).follows taken).reaches

/-- A search tries the places ahead. -/
theorem exists_matchAt_of_searchFrom {r : Regex} {position : Nat} {before text : List Char}
    {found : Match} (searched : r.searchFrom position before text = some found) :
    ∃ cursor, cursor.after <:+ text ∧ r.matchAt cursor = some found := by
  induction text generalizing position before with
  | nil => exact ⟨_, List.suffix_refl [], searched⟩
  | cons c rest ih =>
      rcases Option.or_eq_some_iff.mp searched with matched | ⟨-, searched⟩
      · exact ⟨_, List.suffix_refl (c :: rest), matched⟩
      · obtain ⟨cursor, suffix, matched⟩ := ih searched
        exact ⟨cursor, suffix.trans (List.suffix_cons c rest), matched⟩

/-- What a group caught that every way through the expression passes. -/
theorem group?_of_search {r : Regex} (index : Nat) (passed : r.passes index = true)
    {text : List Char} {found : Match} (searched : r.search text = some found) :
    found.group? index = some (found.group index) := by
  obtain ⟨cursor, -, matched⟩ := exists_matchAt_of_searchFrom searched
  obtain ⟨finish, taken, rfl⟩ := Option.map_eq_some_iff.mp matched
  obtain ⟨further, -, kept, same⟩ := captured_of_passes passed _ _ _ taken
  obtain rfl := Option.some.inj same
  obtain ⟨caught, captured⟩ := Option.isSome_iff_exists.mp kept
  rw [Match.group?, Match.group, Match.between, captured, Option.map_some]

theorem liesAhead_of_searchFrom {r : Regex} {position : Nat} {before text : List Char}
    {found : Match} (searched : r.searchFrom position before text = some found) :
    found.LiesAhead text := by
  obtain ⟨cursor, suffix, matched⟩ := exists_matchAt_of_searchFrom searched
  exact (liesAhead_of_matchAt matched).of_suffix suffix

theorem liesAhead_of_searchBeyond {r : Regex} {cursor : Cursor} {found : Match}
    (searched : r.searchBeyond cursor = some found) : found.LiesAhead cursor.after := by
  unfold searchBeyond at searched
  dsimp only at searched
  split at searched
  · rename_i finish taken
    obtain rfl := Option.some.inj searched
    obtain ⟨further, follows, moved⟩ := advances_run r _ _ _ taken
    split at moved
    · contradiction
    · obtain rfl := Option.some.inj moved
      exact liesAhead_between follows.reaches
  · split at searched
    · contradiction
    · rename_i step
      obtain ⟨text, -, -, after⟩ := (Cursor.follows_of_step step).reaches
      exact (liesAhead_of_searchFrom searched).of_suffix ⟨text, after.symm⟩

theorem liesAhead_of_mem_fitsFrom {r : Regex} {fuel : Nat} {mustMove : Bool} {cursor : Cursor}
    {found : Match} (member : found ∈ r.fitsFrom fuel mustMove cursor) :
    found.LiesAhead cursor.after := by
  induction fuel generalizing mustMove cursor with
  | zero => contradiction
  | succ fuel ih =>
      rw [fitsFrom] at member
      split at member
      · contradiction
      · rename_i first searched
        have ahead : first.LiesAhead cursor.after := by
          split at searched
          · exact liesAhead_of_searchBeyond searched
          · exact liesAhead_of_searchFrom searched
        rcases List.mem_cons.mp member with rfl | member
        · exact ahead
        · exact (ih member).of_suffix ahead.rest

/-- Every fit is a piece of the text. -/
theorem infix_of_mem_findAll {r : Regex} {text : List Char} {found : Match}
    (member : found ∈ r.findAll text) : found.text <:+: text :=
  (liesAhead_of_mem_fitsFrom member).piece

/-! ## The leftmost fit -/

/-- The place in a text after so many characters, with no groups yet. -/
def Cursor.place (text : List Char) (position : Nat) : Cursor :=
  ⟨position, (text.take position).reverse, text.drop position, []⟩

/-- The expression fits at some place of the text. -/
def FitsIn (r : Regex) (text : List Char) : Prop :=
  ∃ position ≤ text.length, r.run some (Cursor.place text position) ≠ none

/-- The fit runs from one number of characters to the other, and none starts before it. -/
structure Leftmost (r : Regex) (text : List Char) (start stop : Nat) : Prop where
  /-- The fit starts in the text or at its end. -/
  within : start ≤ text.length
  /-- The expression fits from there up to the place after it. -/
  fits : ∃ finish, r.run some (Cursor.place text start) = some finish ∧ finish.position = stop
  /-- It fits from no earlier place. -/
  first : ∀ earlier < start, r.run some (Cursor.place text earlier) = none

/-- A search from a place tries the places from there on, one after the other. -/
theorem searchFrom_eq_some_iff {r : Regex} {position : Nat} {before text : List Char}
    {found : Match} :
    r.searchFrom position before text = some found ↔
      ∃ count ≤ text.length,
        r.matchAt ⟨position + count, (text.take count).reverse ++ before, text.drop count, []⟩ =
            some found ∧
          ∀ fewer < count,
            r.matchAt ⟨position + fewer, (text.take fewer).reverse ++ before, text.drop fewer, []⟩ =
              none := by
  induction text generalizing position before with
  | nil =>
      rw [searchFrom]
      constructor
      · intro matched
        exact ⟨0, le_rfl, matched, fun _ fewer => absurd fewer (Nat.not_lt_zero _)⟩
      · rintro ⟨count, within, matched, -⟩
        obtain rfl := Nat.le_zero.mp within
        exact matched
  | cons c rest ih =>
      have shifted (count : Nat) : r.matchAt ⟨position + 1 + count,
          (rest.take count).reverse ++ c :: before, rest.drop count, []⟩ =
            r.matchAt ⟨position + (count + 1), ((c :: rest).take (count + 1)).reverse ++ before,
              (c :: rest).drop (count + 1), []⟩ := by
        simp [Nat.add_assoc, Nat.add_comm 1]
      rw [searchFrom, Option.or_eq_some_iff, ih]
      simp only [shifted]
      constructor
      · rintro (matched | ⟨missed, count, within, matched, first⟩)
        · exact ⟨0, Nat.zero_le _, matched, fun _ fewer => absurd fewer (Nat.not_lt_zero _)⟩
        · refine ⟨count + 1, Nat.succ_le_succ within, matched, fun fewer less => ?_⟩
          cases fewer with
          | zero => exact missed
          | succ fewer => exact first fewer (Nat.lt_of_succ_lt_succ less)
      · rintro ⟨count, within, matched, first⟩
        cases count with
        | zero => exact .inl matched
        | succ count =>
            refine .inr ⟨first 0 (Nat.succ_pos _), count, Nat.le_of_succ_le_succ within, matched,
              fun fewer less => first (fewer + 1) (Nat.succ_lt_succ less)⟩

theorem search_eq_some_iff {r : Regex} {text : List Char} {found : Match} :
    r.search text = some found ↔
      ∃ position ≤ text.length, r.matchAt (Cursor.place text position) = some found ∧
        ∀ earlier < position, r.matchAt (Cursor.place text earlier) = none := by
  rw [search, searchFrom_eq_some_iff]
  simp only [Nat.zero_add, List.append_nil]
  rfl

theorem leftmost_of_search {r : Regex} {text : List Char} {found : Match}
    (searched : r.search text = some found) : r.Leftmost text found.start found.stop := by
  obtain ⟨position, within, matched, first⟩ := search_eq_some_iff.mp searched
  obtain ⟨finish, ran, rfl⟩ := Option.map_eq_some_iff.mp matched
  exact ⟨within, ⟨finish, ran, rfl⟩, fun earlier less => Option.map_eq_none_iff.mp (first earlier less)⟩

/-- Where the expression fits at all, the search finds something. -/
theorem occursIn_iff_fitsIn {r : Regex} {text : List Char} :
    r.occursIn text = true ↔ r.FitsIn text := by
  rw [occursIn, Option.isSome_iff_exists]
  constructor
  · rintro ⟨found, searched⟩
    obtain ⟨position, within, matched, -⟩ := search_eq_some_iff.mp searched
    refine ⟨position, within, fun missed => ?_⟩
    rw [matchAt, missed] at matched
    contradiction
  · rintro ⟨position, within, fits⟩
    -- The first place with a fit is where the search ends.
    classical
    have fits' : r.matchAt (Cursor.place text position) ≠ none := fun missed =>
      fits (Option.map_eq_none_iff.mp missed)
    have some_place : ∃ position, r.matchAt (Cursor.place text position) ≠ none := ⟨position, fits'⟩
    obtain ⟨found, matched⟩ := Option.ne_none_iff_exists'.mp (Nat.find_spec some_place)
    have leftmost : Nat.find some_place ≤ position := Nat.find_min' some_place fits'
    exact ⟨found, search_eq_some_iff.mpr ⟨Nat.find some_place, Nat.le_trans leftmost within, matched,
      fun earlier less => not_not.mp (Nat.find_min some_place less)⟩⟩

theorem search_eq_none_iff {r : Regex} {text : List Char} :
    r.search text = none ↔ ¬ r.FitsIn text := by
  rw [← occursIn_iff_fitsIn, occursIn, Option.isSome_iff_ne_none, not_not]

end Regex
end Hazard
