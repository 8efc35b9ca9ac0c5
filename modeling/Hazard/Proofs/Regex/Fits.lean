import Mathlib.Data.List.Basic
import Mathlib.Data.List.Forall2
import Hazard.Regex.Match

/-!
# What an expression fits

`Regex.Fits` says which texts an expression describes between two given texts, with no word on the
order in which a matcher tries them.  For expressions without captures and look-around the ordered
matcher finds a fit exactly when there is one, so a search succeeds exactly when some piece of the
text fits.
-/

namespace Hazard
namespace Regex

/-- Which texts fit between the characters before, nearest first, and those after. -/
abbrev Fitting := List Char → List Char → List Char → Prop

/-- A text that fits the first and, right after it, one that fits the second. -/
def Then (first second : Fitting) : Fitting := fun before text after =>
  ∃ head tail, text = head ++ tail ∧ first before head (tail ++ after) ∧
    second (head.reverse ++ before) tail after

/-- The text falls into `count` consecutive pieces, each of which fits between its neighbours. -/
def Rounds (fits : Fitting) : Nat → Fitting
  | 0 => fun _ text _ => text = []
  | count + 1 => Then fits (Rounds fits count)

/-- The expression describes `text` where it stands; captures and look-around are left out. -/
def Fits : Regex → Fitting
  | .empty, _, text, _ => text = []
  | .one test, _, text, _ => ∃ c, text = [c] ∧ test.accepts c = true
  | .at anchor, before, text, after =>
      text = [] ∧ Cursor.satisfies ⟨0, before, after, []⟩ anchor = true
  | .seq first second, before, text, after => Then first.Fits second.Fits before text after
  | .alt first second, before, text, after =>
      first.Fits before text after ∨ second.Fits before text after
  | .repeated _ least most body, before, text, after =>
      ∃ count, least ≤ count ∧ (∀ limit ∈ most, count ≤ limit) ∧
        Rounds body.Fits count before text after
  | _, _, _, _ => False

/-- Expressions of which the matcher reconsiders every choice, and whose repetitions have bounds
that can be met. -/
inductive Plain : Regex → Prop
  | empty : Plain .empty
  | one (test : CharTest) : Plain (.one test)
  | place (anchor : Anchor) : Plain (.at anchor)
  | seq {first second : Regex} : Plain first → Plain second → Plain (.seq first second)
  | alt {first second : Regex} : Plain first → Plain second → Plain (.alt first second)
  | greedy {least : Nat} {most : Option Nat} {body : Regex}
      (feasible : ∀ limit ∈ most, least ≤ limit) :
      Plain body → Plain (.repeated .greedy least most body)

/-- The test whether an expression is plain. -/
def isPlain : Regex → Bool
  | .empty => true
  | .one _ => true
  | .at _ => true
  | .seq first second => first.isPlain && second.isPlain
  | .alt first second => first.isPlain && second.isPlain
  | .repeated .greedy least most body => most.all (least ≤ ·) && body.isPlain
  | _ => false

theorem plain_of_isPlain {r : Regex} (holds : r.isPlain = true) : Plain r := by
  fun_induction isPlain r with
  | case1 => exact .empty
  | case2 test => exact .one test
  | case3 anchor => exact .place anchor
  | case4 first second ih ih' =>
      obtain ⟨left, right⟩ := Bool.and_eq_true_iff.mp holds
      exact .seq (ih left) (ih' right)
  | case5 first second ih ih' =>
      obtain ⟨left, right⟩ := Bool.and_eq_true_iff.mp holds
      exact .alt (ih left) (ih' right)
  | case6 least most body ih =>
      obtain ⟨feasible, plain⟩ := Bool.and_eq_true_iff.mp holds
      refine .greedy (fun limit bound => ?_) (ih plain)
      rw [Option.mem_def] at bound
      simpa [bound] using feasible
  | case7 => contradiction

namespace Cursor

/-- The place after a text that starts here. -/
def past (cursor : Cursor) (text : List Char) : Cursor :=
  { cursor with position := cursor.position + text.length,
                before := text.reverse ++ cursor.before, after := cursor.after.drop text.length }

@[simp] theorem past_nil (cursor : Cursor) : cursor.past [] = cursor := by
  simp [past]

theorem past_append (cursor : Cursor) (head tail : List Char) :
    cursor.past (head ++ tail) = (cursor.past head).past tail := by
  simp [past, Nat.add_assoc]

@[simp] theorem position_past (cursor : Cursor) (text : List Char) :
    (cursor.past text).position = cursor.position + text.length := rfl

theorem after_past {cursor : Cursor} {text rest : List Char}
    (ahead : cursor.after = text ++ rest) : (cursor.past text).after = rest := by
  simp [past, ahead]

end Cursor

/-- Some text ahead fits, and what remains accepts the place after it. -/
def Accepts (fits : Fitting) (next : Continuation) (cursor : Cursor) : Prop :=
  ∃ text rest, cursor.after = text ++ rest ∧ fits cursor.before text rest ∧
    (next (cursor.past text)).isSome

/-- The step of a matcher succeeds exactly where its fitting is accepted. -/
def Realizes (body : Continuation → Continuation) (fits : Fitting) : Prop :=
  ∀ next cursor, (body next cursor).isSome ↔ Accepts fits next cursor

/-! ## Pieces in a row -/

theorem then_assoc {first second third : Fitting} {before text after : List Char} :
    Then (Then first second) third before text after ↔
      Then first (Then second third) before text after := by
  constructor
  · rintro ⟨_, tail, rfl, ⟨head, middle, rfl, fitHead, fitMiddle⟩, fitTail⟩
    exact ⟨head, middle ++ tail, by simp, by simpa using fitHead,
      middle, tail, rfl, fitMiddle, by simpa using fitTail⟩
  · rintro ⟨head, _, rfl, fitHead, middle, tail, rfl, fitMiddle, fitTail⟩
    exact ⟨head ++ middle, tail, by simp, ⟨head, middle, rfl, by simpa using fitHead, fitMiddle⟩,
      by simpa using fitTail⟩

theorem then_congr {first first' second second' : Fitting}
    (same : ∀ before text after, first before text after ↔ first' before text after)
    (same' : ∀ before text after, second before text after ↔ second' before text after)
    {before text after : List Char} :
    Then first second before text after ↔ Then first' second' before text after := by
  simp only [Then, same, same']

theorem rounds_add {fits : Fitting} {first second : Nat} {before text after : List Char} :
    Rounds fits (first + second) before text after ↔
      Then (Rounds fits first) (Rounds fits second) before text after := by
  induction first generalizing before text after with
  | zero => simp [Rounds, Then]
  | succ first ih =>
      rw [Nat.succ_add, Rounds, Rounds, then_assoc]
      exact then_congr (fun _ _ _ => Iff.rfl) (fun _ _ _ => ih)

/-- Pieces that must move on. -/
def Moving (fits : Fitting) : Fitting := fun before text after =>
  text ≠ [] ∧ fits before text after

/-- Empty rounds may be left out. -/
theorem Rounds.moving {fits : Fitting} {count : Nat} {before text after : List Char}
    (fit : Rounds fits count before text after) :
    ∃ fewer ≤ count, Rounds (Moving fits) fewer before text after := by
  induction count generalizing before text with
  | zero => exact ⟨0, Nat.le_refl 0, fit⟩
  | succ count ih =>
      obtain ⟨head, tail, rfl, fitHead, fitTail⟩ := fit
      obtain ⟨fewer, within, moving⟩ := ih fitTail
      by_cases still : head = []
      · subst still
        exact ⟨fewer, by omega, moving⟩
      · exact ⟨fewer + 1, by omega, head, tail, rfl, ⟨still, fitHead⟩, moving⟩

/-- There are no more moving rounds than characters. -/
theorem Rounds.count_le_length {fits : Fitting} {count : Nat} {before text after : List Char}
    (fit : Rounds (Moving fits) count before text after) : count ≤ text.length := by
  induction count generalizing before text with
  | zero => exact Nat.zero_le _
  | succ count ih =>
      obtain ⟨head, tail, rfl, ⟨moves, -⟩, fitTail⟩ := fit
      have shorter := ih fitTail
      have := List.length_pos_of_ne_nil moves
      simp only [List.length_append]
      omega

/-! ## The matcher -/

theorem accepts_nil {next : Continuation} {cursor : Cursor} :
    Accepts (fun _ text _ => text = []) next cursor ↔ (next cursor).isSome := by
  constructor
  · rintro ⟨_, rest, -, rfl, accepted⟩
    simpa using accepted
  · intro accepted
    exact ⟨[], cursor.after, rfl, rfl, by simpa using accepted⟩

theorem accepts_then {first second : Fitting} {next : Continuation} {cursor : Cursor} :
    Accepts (Then first second) next cursor ↔
      ∃ head rest, cursor.after = head ++ rest ∧ first cursor.before head rest ∧
        Accepts second next (cursor.past head) := by
  constructor
  · rintro ⟨_, rest, ahead, ⟨head, tail, rfl, fitHead, fitTail⟩, accepted⟩
    rw [List.append_assoc] at ahead
    exact ⟨head, tail ++ rest, ahead, fitHead, tail, rest, Cursor.after_past ahead, fitTail,
      by rwa [← Cursor.past_append]⟩
  · rintro ⟨head, _, ahead, fitHead, tail, rest, ahead', fitTail, accepted⟩
    obtain rfl := (Cursor.after_past ahead).symm.trans ahead'
    exact ⟨head ++ tail, rest, by simp [ahead], ⟨head, tail, rfl, fitHead, fitTail⟩,
      by rwa [Cursor.past_append]⟩

/-- Steps in a row realize fittings in a row. -/
theorem Realizes.comp {first second : Continuation → Continuation} {fits fits' : Fitting}
    (realizes : Realizes first fits) (realizes' : Realizes second fits') :
    Realizes (fun next => first (second next)) (Then fits fits') := by
  intro next cursor
  rw [realizes, accepts_then]
  simp only [Accepts, realizes' _ _]

theorem Realizes.rounds {body : Continuation → Continuation} {fits : Fitting}
    (realizes : Realizes body fits) (count : Nat) :
    Realizes (fun next => rounds body next count) (Rounds fits count) := by
  induction count with
  | zero => exact fun next cursor => accepts_nil.symm
  | succ count ih => exact realizes.comp ih

/-- A greedy repetition succeeds only on rounds that fit. -/
theorem accepts_of_greedyRounds {body : Continuation → Continuation} {fits : Fitting}
    (realizes : Realizes body fits) {next : Continuation} {fuel : Nat} {last : Option Nat}
    {cursor : Cursor} (found : (greedyRounds body next fuel last cursor).isSome) :
    ∃ count ≤ fuel, Accepts (Rounds fits count) next cursor := by
  induction fuel generalizing last cursor with
  | zero => exact ⟨0, Nat.le_refl 0, accepts_nil.mpr found⟩
  | succ fuel ih =>
      rw [greedyRounds] at found
      split at found
      · exact ⟨0, Nat.zero_le _, accepts_nil.mpr found⟩
      · rw [Option.isSome_or, Bool.or_eq_true] at found
        rcases found with more | accepted
        · obtain ⟨head, rest, ahead, fit, later⟩ := (realizes _ _).mp more
          obtain ⟨count, within, accepted⟩ := ih later
          exact ⟨count + 1, by omega, accepts_then.mpr ⟨head, rest, ahead, fit, accepted⟩⟩
        · exact ⟨0, Nat.zero_le _, accepts_nil.mpr accepted⟩

/-- A greedy repetition finds every run of moving rounds for which it has fuel: the check against
a round that starts where the last one did never fires along it. -/
theorem greedyRounds_of_accepts {body : Continuation → Continuation} {fits : Fitting}
    (realizes : Realizes body fits) {next : Continuation} {fuel count : Nat} {last : Option Nat}
    {cursor : Cursor} (fresh : last ≠ some cursor.position) (enough : count ≤ fuel)
    (accepts : Accepts (Rounds (Moving fits) count) next cursor) :
    (greedyRounds body next fuel last cursor).isSome := by
  induction count generalizing fuel last cursor with
  | zero =>
      have accepted := accepts_nil.mp accepts
      cases fuel with
      | zero => exact accepted
      | succ fuel => simp [greedyRounds, fresh, accepted]
  | succ count ih =>
      obtain ⟨fuel, rfl⟩ : ∃ more, fuel = more + 1 := ⟨fuel - 1, by omega⟩
      obtain ⟨head, rest, ahead, ⟨moves, fit⟩, accepted⟩ := accepts_then.mp accepts
      have further : some cursor.position ≠ some (cursor.past head).position := by
        have := List.length_pos_of_ne_nil moves
        simp only [Cursor.position_past, ne_eq, Option.some.injEq]
        omega
      have later := ih further (Nat.le_of_succ_le_succ enough) accepted
      have more : (body (greedyRounds body next fuel (some cursor.position)) cursor).isSome :=
        (realizes _ _).mpr ⟨head, rest, ahead, fit, later⟩
      simp [greedyRounds, fresh, more]

/-- The bound on further rounds loses no fit, since empty rounds are never needed. -/
theorem greedyRounds_isSome_iff {body : Continuation → Continuation} {fits : Fitting}
    (realizes : Realizes body fits) {next : Continuation} {least : Nat} {most : Option Nat}
    {cursor : Cursor} :
    (greedyRounds body next (furtherRounds least most cursor) none cursor).isSome ↔
      ∃ count, (∀ limit ∈ most, count ≤ limit - least) ∧
        Accepts (Rounds fits count) next cursor := by
  constructor
  · intro found
    obtain ⟨count, within, accepts⟩ := accepts_of_greedyRounds realizes found
    refine ⟨count, ?_, accepts⟩
    rintro limit rfl
    rw [furtherRounds] at within
    omega
  · rintro ⟨count, within, text, rest, ahead, fit, accepted⟩
    obtain ⟨fewer, fewer_le, moving⟩ := fit.moving
    have short : fewer ≤ cursor.after.length := by
      have := moving.count_le_length
      simp only [ahead, List.length_append]
      omega
    have enough : fewer ≤ furtherRounds least most cursor := by
      cases most with
      | none => simp only [furtherRounds]; omega
      | some limit =>
          have := within limit rfl
          simp only [furtherRounds]
          omega
    exact greedyRounds_of_accepts realizes nofun enough ⟨text, rest, ahead, moving, accepted⟩

theorem realizes_greedy {body : Continuation → Continuation} {fits : Fitting}
    (realizes : Realizes body fits) {least : Nat} {most : Option Nat}
    (feasible : ∀ limit ∈ most, least ≤ limit) :
    Realizes
      (fun next => rounds body
        (fun c => greedyRounds body next (furtherRounds least most c) none c) least)
      (fun before text after => ∃ count, least ≤ count ∧ (∀ limit ∈ most, count ≤ limit) ∧
        Rounds fits count before text after) := by
  intro next cursor
  rw [realizes.rounds least]
  constructor
  · rintro ⟨head, rest, ahead, fit, found⟩
    obtain ⟨count, within, more⟩ := (greedyRounds_isSome_iff realizes).mp found
    obtain ⟨text, rest', ahead', both, accepted⟩ :=
      accepts_then.mpr ⟨head, rest, ahead, fit, more⟩
    refine ⟨text, rest', ahead', ⟨least + count, Nat.le_add_right _ _, ?_, rounds_add.mpr both⟩,
      accepted⟩
    intro limit bound
    have := feasible limit bound
    have := within limit bound
    omega
  · rintro ⟨text, rest, ahead, ⟨count, enough, within, fit⟩, accepted⟩
    obtain ⟨more, rfl⟩ := Nat.exists_eq_add_of_le enough
    obtain ⟨head, rest', ahead', fitHead, later⟩ :=
      accepts_then.mp ⟨text, rest, ahead, rounds_add.mp fit, accepted⟩
    refine ⟨head, rest', ahead', fitHead, (greedyRounds_isSome_iff realizes).mpr ⟨more, ?_, later⟩⟩
    intro limit bound
    have := within limit bound
    omega

/-- The ordered matcher finds a fit of a plain expression exactly when there is one that what
remains accepts. -/
theorem Plain.realizes {r : Regex} (plain : Plain r) : Realizes r.run r.Fits := by
  induction plain with
  | empty => exact fun next cursor => accepts_nil.symm
  | one test =>
      intro next cursor
      rw [run]
      constructor
      · intro found
        obtain ⟨position, before, after, groups⟩ := cursor
        cases after with
        | nil => simp [Cursor.step] at found
        | cons c after =>
            simp only [Cursor.step] at found
            split at found
            · exact ⟨[c], after, rfl, ⟨c, rfl, ‹_›⟩, found⟩
            · simp at found
      · rintro ⟨_, rest, ahead, ⟨c, rfl, accepted⟩, found⟩
        simpa [Cursor.step, ahead, accepted, Cursor.past] using found
  | place anchor =>
      intro next cursor
      have here : cursor.satisfies anchor =
          Cursor.satisfies ⟨0, cursor.before, cursor.after, []⟩ anchor := by cases anchor <;> rfl
      rw [run, here]
      constructor
      · intro found
        split at found
        · exact ⟨[], cursor.after, rfl, ⟨rfl, ‹_›⟩, by simpa using found⟩
        · simp at found
      · rintro ⟨_, rest, ahead, ⟨rfl, holds⟩, found⟩
        rw [List.nil_append] at ahead
        rw [ahead, if_pos holds]
        simpa using found
  | seq _ _ first second => exact first.comp second
  | alt _ _ first second =>
      intro next cursor
      rw [run, Option.isSome_or, Bool.or_eq_true, first, second]
      simp only [Accepts, Fits, or_and_right, and_or_left, exists_or]
  | greedy feasible _ ih => exact realizes_greedy ih feasible

/-! ## Searching -/

theorem matchAt_isSome_iff {r : Regex} (plain : Plain r) (cursor : Cursor) :
    (r.matchAt cursor).isSome ↔
      ∃ piece rear, cursor.after = piece ++ rear ∧ r.Fits cursor.before piece rear := by
  rw [matchAt, Option.isSome_map, plain.realizes]
  simp [Accepts]

theorem searchFrom_isSome_iff {r : Regex} (plain : Plain r) (position : Nat)
    (before text : List Char) :
    (r.searchFrom position before text).isSome ↔
      ∃ front piece rear, text = front ++ piece ++ rear ∧
        r.Fits (front.reverse ++ before) piece rear := by
  induction text generalizing position before with
  | nil =>
      rw [searchFrom, matchAt_isSome_iff plain]
      constructor
      · rintro ⟨piece, rear, split, fit⟩
        exact ⟨[], piece, rear, split, fit⟩
      · rintro ⟨front, piece, rear, split, fit⟩
        rw [List.append_assoc] at split
        obtain ⟨rfl, split⟩ := List.nil_eq_append_iff.mp split
        exact ⟨piece, rear, split, fit⟩
  | cons c text ih =>
      rw [searchFrom, Option.isSome_or, Bool.or_eq_true, matchAt_isSome_iff plain, ih]
      constructor
      · rintro (⟨piece, rear, split, fit⟩ | ⟨front, piece, rear, split, fit⟩)
        · exact ⟨[], piece, rear, split, fit⟩
        · exact ⟨c :: front, piece, rear, by simp [split], by simpa using fit⟩
      · rintro ⟨front, piece, rear, split, fit⟩
        cases front with
        | nil => exact .inl ⟨piece, rear, split, fit⟩
        | cons d front =>
            obtain ⟨rfl, inner⟩ := List.cons.inj split
            exact .inr ⟨front, piece, rear, inner, by simpa using fit⟩

/-- A plain expression occurs in a text exactly when it fits one of its pieces. -/
theorem occursIn_iff {r : Regex} (plain : Plain r) {text : List Char} :
    r.occursIn text = true ↔
      ∃ front piece rear, text = front ++ piece ++ rear ∧ r.Fits front.reverse piece rear := by
  rw [occursIn, search, searchFrom_isSome_iff plain]
  simp only [List.append_nil]

/-! ## Derived forms -/

theorem plain_concat {parts : List Regex} (plain : ∀ r ∈ parts, Plain r) :
    Plain (concat parts) := by
  induction parts with
  | nil => exact .empty
  | cons r rest ih =>
      rw [List.forall_mem_cons] at plain
      cases rest with
      | nil => exact plain.1
      | cons s rest => exact .seq plain.1 (ih plain.2)

theorem fits_concat_cons {r : Regex} {rest : List Regex} {before text after : List Char} :
    (concat (r :: rest)).Fits before text after ↔
      Then r.Fits (concat rest).Fits before text after := by
  cases rest with
  | nil => simp [concat, Fits, Then]
  | cons s rest => rfl

theorem fits_concat_append {front rear : List Regex} {before text after : List Char} :
    (concat (front ++ rear)).Fits before text after ↔
      Then (concat front).Fits (concat rear).Fits before text after := by
  induction front generalizing before text after with
  | nil => simp [concat, Fits, Then]
  | cons r front ih =>
      rw [List.cons_append, fits_concat_cons]
      simp only [then_congr (fun _ _ _ => Iff.rfl) (fun _ _ _ => ih), ← then_assoc]
      exact then_congr (fun _ _ _ => fits_concat_cons.symm) (fun _ _ _ => Iff.rfl)

theorem then_at {anchor : Anchor} {second : Fitting} {before text after : List Char} :
    Then (Fits (.at anchor)) second before text after ↔
      Cursor.satisfies ⟨0, before, text ++ after, []⟩ anchor = true ∧
        second before text after := by
  constructor
  · rintro ⟨_, tail, rfl, ⟨rfl, holds⟩, fit⟩
    exact ⟨by simpa using holds, by simpa using fit⟩
  · rintro ⟨holds, fit⟩
    exact ⟨[], text, rfl, ⟨rfl, holds⟩, by simpa using fit⟩

theorem rounds_one_iff {test : CharTest} {count : Nat} {before text after : List Char} :
    Rounds (Fits (.one test)) count before text after ↔
      text.length = count ∧ ∀ c ∈ text, test.accepts c = true := by
  induction count generalizing before text with
  | zero => simp +contextual [Rounds]
  | succ count ih =>
      constructor
      · rintro ⟨_, tail, rfl, ⟨c, rfl, accepted⟩, fit⟩
        have := ih.mp fit
        simpa [accepted] using this
      · rintro ⟨length_eq, accepted⟩
        obtain ⟨c, tail, rfl⟩ := List.exists_cons_of_length_eq_add_one length_eq
        rw [List.forall_mem_cons] at accepted
        exact ⟨[c], tail, rfl, ⟨c, rfl, accepted.1⟩,
          ih.mpr ⟨Nat.succ.inj length_eq, accepted.2⟩⟩

theorem fits_repeated {eagerness : Eagerness} {least : Nat} {most : Option Nat} {body : Regex}
    {before text after : List Char} :
    (repeated eagerness least most body).Fits before text after ↔
      ∃ count, least ≤ count ∧ (∀ limit ∈ most, count ≤ limit) ∧
        Rounds body.Fits count before text after := Iff.rfl

theorem fits_many_one {test : CharTest} {before text after : List Char} :
    (many (.one test)).Fits before text after ↔ ∀ c ∈ text, test.accepts c = true := by
  rw [many, fits_repeated]
  simp [rounds_one_iff]

theorem fits_many1_one {test : CharTest} {before text after : List Char} :
    (many1 (.one test)).Fits before text after ↔
      text ≠ [] ∧ ∀ c ∈ text, test.accepts c = true := by
  rw [many1, fits_repeated]
  simp [rounds_one_iff, Nat.add_one_le_iff, List.length_pos_iff]

theorem fits_perhaps {r : Regex} {before text after : List Char} :
    (perhaps r).Fits before text after ↔ text = [] ∨ r.Fits before text after := by
  rw [perhaps, fits_repeated]
  constructor
  · rintro ⟨count, -, within, fit⟩
    obtain rfl | rfl : count = 0 ∨ count = 1 := by
      have := within 1 rfl
      omega
    · exact .inl fit
    · obtain ⟨head, _, rfl, fitHead, rfl⟩ := fit
      exact .inr (by simpa using fitHead)
  · rintro (rfl | fit)
    · exact ⟨0, Nat.le_refl 0, by simp, rfl⟩
    · exact ⟨1, Nat.zero_le 1, by simp, text, [], by simp, by simpa using fit, rfl⟩

theorem accepts_char {c d : Char} :
    (CharTest.set false [.one c.toNat] .exact).accepts d = true ↔ d = c := by
  simp [CharTest.accepts, ClassItem.accepts, ClassItem.oneAccepts, Char.toNat_inj]

theorem fits_char {c : Char} {before text after : List Char} :
    (char .exact c).Fits before text after ↔ text = [c] := by
  simp only [char, Fits, accepts_char, exists_eq_right]

theorem accepts_one {fold : Fold} {code : Nat} {d : Char} :
    (CharTest.set false [.one code] fold).accepts d = ClassItem.oneAccepts fold code d := by
  simp [CharTest.accepts, ClassItem.accepts]

/-- The text spells what is wanted: they agree character by character, as far as case counts. -/
def Spells (fold : Fold) (wanted text : List Char) : Prop :=
  List.Forall₂ (fun c d => ClassItem.oneAccepts fold c.toNat d = true) wanted text

theorem fits_chars {fold : Fold} {wanted : List Char} {before text after : List Char} :
    (concat (wanted.map (char fold))).Fits before text after ↔ Spells fold wanted text := by
  induction wanted generalizing before text with
  | nil => rw [Spells, List.forall₂_nil_left_iff, List.map_nil, concat, Fits]
  | cons c wanted ih =>
      rw [Spells, List.map_cons, fits_concat_cons, List.forall₂_cons_left_iff]
      constructor
      · rintro ⟨_, tail, rfl, ⟨d, rfl, accepted⟩, fit⟩
        exact ⟨d, tail, accepts_one.symm.trans accepted, ih.mp fit, rfl⟩
      · rintro ⟨d, tail, agrees, rest, rfl⟩
        exact ⟨[d], tail, rfl, ⟨d, rfl, accepts_one.trans agrees⟩, ih.mpr rest⟩

theorem fits_chars_exact {s : String} {before text after : List Char} :
    (concat (chars .exact s)).Fits before text after ↔ text = s.toList := by
  have same : (fun c d : Char => ClassItem.oneAccepts .exact c.toNat d = true) = Eq := by
    funext c d
    rw [ClassItem.oneAccepts, beq_iff_eq, Char.toNat_inj]
    exact propext eq_comm
  rw [chars, fits_chars, Spells, same, List.forall₂_eq_eq_eq, eq_comm]

end Regex
end Hazard
