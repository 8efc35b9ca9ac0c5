import Hazard.Data.Read
import Hazard.Proofs.Data.Json.Reading

/-!
# Checked parts

A check of several parts succeeds if and only if the check of each part does.  A number that is read
leniently from what JSON can hold can be written and read again: an integer has few enough characters,
and a decimal is in its one form.
-/

namespace Hazard

/-! ## Several parts -/

namespace Checked

variable {α β : Type}

@[simp] theorem within_eq_ok_iff {place : Place} {check : Checked α} {value : α} :
    check.within place = .ok value ↔ check = .ok value := by
  cases check with
  | ok _ => rfl
  | error issues => simp [within]

theorem both_eq_ok_iff {first : Checked (α → β)} {second : Checked α} {value : β} :
    first.both second = .ok value ↔ ∃ f a, first = .ok f ∧ second = .ok a ∧ f a = value := by
  cases first <;> cases second <;> simp [both]

theorem all_eq_ok_iff {checks : List (Checked α)} {values : List α} :
    all checks = .ok values ↔ checks = values.map .ok := by
  induction checks generalizing values with
  | nil => cases values <;> simp [all]
  | cons check checks ih =>
      rw [all, both_eq_ok_iff]
      constructor
      · rintro ⟨f, rest, first_eq, rest_eq, rfl⟩
        obtain ⟨_, first, start_eq, rfl, rfl⟩ := both_eq_ok_iff.mp first_eq
        obtain rfl := Except.ok.inj start_eq
        rw [ih.mp rest_eq, List.map_cons]
      · intro same
        obtain ⟨first, rest, rfl, rfl, rest_eq⟩ := List.map_eq_cons_iff.mp same.symm
        exact ⟨List.cons first, rest, rfl, ih.mpr rest_eq.symm, rfl⟩

/-- What is wrong. -/
def issues : Checked α → List Issue
  | .ok _ => []
  | .error issues => issues

theorem issues_both (first : Checked (α → β)) (second : Checked α) :
    (first.both second).issues = first.issues ++ second.issues := by
  cases first <;> cases second <;> simp [both, issues]

/-- What is wrong with several parts is what is wrong with each. -/
theorem issues_all (checks : List (Checked α)) : (all checks).issues = checks.flatMap issues := by
  induction checks with
  | nil => rfl
  | cons check checks ih =>
      rw [all, issues_both, issues_both, ih, List.flatMap_cons]
      rfl

end Checked

namespace Read

variable {α : Type} {read : Value → Checked α}

theorem items_eq_ok_iff {values : List Value} {results : List α} :
    items read values = .ok results ↔ values.map read = results.map .ok := by
  rw [items, Checked.all_eq_ok_iff, List.ext_getElem?_iff, List.ext_getElem?_iff]
  refine forall_congr' fun index => ?_
  rw [List.getElem?_mapIdx, List.getElem?_map, List.getElem?_map]
  cases values[index]? with
  | none => rfl
  | some value => cases results[index]? <;> simp

theorem list_eq_ok_iff {value : Value} {results : List α} :
    list read value = .ok results ↔
      ∃ values, value = .list values ∧ values.map read = results.map .ok := by
  cases value with
  | scalar | map => simp [list, Checked.issue]
  | list values => simp [list, items_eq_ok_iff]

end Read

/-! ## Fields -/

theorem Value.find?_record (name : String) (entries : List (String × Value)) :
    find? (.str name) (entries.map fun entry => (.str entry.1, entry.2)) = entries.lookup name := by
  induction entries with
  | nil => rfl
  | cons entry entries ih =>
      rw [find?] at ih ⊢
      rw [List.map_cons, List.find?_cons, List.lookup_cons, Scalar.sameKey_str, BEq.comm]
      cases name == entry.1 with
      | true => rfl
      | false => exact ih

theorem Value.Regular.of_find? {condition : Scalar → Prop} {entries : List (Scalar × Value)}
    (regular : (Value.map entries).Regular condition) {key : Scalar} {value : Value}
    (found : find? key entries = some value) : value.Regular condition := by
  obtain ⟨⟨other, _⟩, first, rfl⟩ := Option.map_eq_some_iff.mp found
  have mem := List.mem_of_find?_eq_some first
  cases regular with
  | record _ each =>
      obtain ⟨entry, listed, entry_eq⟩ := List.mem_map.mp mem
      obtain ⟨rfl, rfl⟩ := Prod.mk.inj entry_eq
      exact each entry listed

namespace Read

variable {α : Type} {read : Value → Checked α} {absent : Option α} {name : String} {a : α}

theorem field_eq_of_lookup {entries : List (String × Value)} {value : Value}
    (found : entries.lookup name = some value) :
    field [name] read absent (entries.map fun entry => (.str entry.1, entry.2)) =
      (read value).within (.key name) := by
  rw [field.eq_def, List.findSome?_cons, Value.find?_record, found]
  rfl

theorem field_of_lookup {entries : List (String × Value)} {value : Value}
    (found : entries.lookup name = some value) (read_eq : read value = .ok a) :
    field [name] read absent (entries.map fun entry => (.str entry.1, entry.2)) = .ok a := by
  rw [field_eq_of_lookup found]
  exact Checked.within_eq_ok_iff.mpr read_eq

theorem exists_of_field {condition : Scalar → Prop} {entries : List (Scalar × Value)}
    (regular : (Value.map entries).Regular condition)
    (read_eq : field [name] read absent entries = .ok a) :
    (∃ value : Value, value.Regular condition ∧ read value = .ok a) ∨ absent = some a := by
  rw [field.eq_def, List.findSome?_cons] at read_eq
  cases found : Value.find? (.str name) entries with
  | none =>
      cases absent with
      | none => simp [found, Checked.issue, Checked.within] at read_eq
      | some value => exact .inr (by simpa [found] using read_eq)
  | some value =>
      refine .inl ⟨value, regular.of_find? found, ?_⟩
      simpa [found] using read_eq

theorem of_optional_some {value : Value} (read_eq : optional read value = .ok (some a)) :
    read value = .ok a := by
  rw [optional.eq_def] at read_eq
  split at read_eq
  · exact nomatch Except.ok.inj read_eq
  · cases result : read value with
    | error issues => simp [result, Except.map] at read_eq
    | ok b => simpa [result, Except.map] using read_eq

/-! ## Integers -/

open Numeral Json

theorem exists_of_plainInteger {text : List Char} {n : Int} (read : plainInteger text = .ok n) :
    ∃ negative digits m, text = sign negative ++ digits ∧ IsWhole digits ∧
      natural? 10 digits = some m ∧ leadingLength text ≤ digitLimit ∧
      n = if negative then -(m : Int) else m := by
  rw [plainInteger.eq_def] at read
  split at read
  rename_i negative digits parts_eq
  have text_eq : text = sign negative ++ digits := by
    split at parts_eq
    all_goals
      obtain ⟨rfl, rfl⟩ := Prod.mk.inj parts_eq
      rfl
  split at read
  · contradiction
  · rename_i within
    split at read
    · contradiction
    · rename_i plain
      split at read
      · rename_i m natural_eq
        simp only [Bool.or_eq_true, not_or, Bool.and_eq_true, decide_eq_true_eq] at plain
        obtain ⟨⟨nonempty, digit⟩, zero⟩ := plain
        refine ⟨negative, digits, m, text_eq, ⟨⟨?_, ?_⟩, ?_⟩, natural_eq, ?_, ?_⟩
        · simpa using nonempty
        · simpa using digit
        · intro head
          obtain ⟨rest, rfl⟩ := List.head?_eq_some_iff.mp head
          have short : rest.length = 0 := by simpa using zero
          rw [List.length_eq_zero_iff.mp short]
        · omega
        · exact (Except.ok.inj read).symm
      · contradiction

/-- The integer of a text has at most as many characters. -/
theorem isShort_of_plainInteger {text : List Char} {n : Int} (read : plainInteger text = .ok n) :
    IsShort (.int n) := by
  obtain ⟨negative, digits, m, rfl, isWhole, natural_eq, within, rfl⟩ := exists_of_plainInteger read
  have ends : EndsDigits [] := nofun
  have length_eq := leadingLength_append negative isWhole ends
  have digits_le := length_toDigits_le isWhole.digits natural_eq
  have integer_le := length_integer_le negative m
  rw [List.append_nil] at length_eq
  exact isShort_int_iff.mpr (by omega)

theorem isShort_of_intOfText {text : List Char} {n : Int} (read : intOfText text = .ok n) :
    IsShort (.int n) := by
  rw [intOfText] at read
  split at read
  · contradiction
  · split at read
    · exact isShort_of_plainInteger read
    · contradiction

theorem isShort_of_natAbs_lt {n : Int} (small : n.natAbs < Nat.pow 2 63) : IsShort (.int n) := by
  have digits_le : (Nat.toDigits 10 n.natAbs).length ≤ 19 :=
    (Nat.length_toDigits_le_iff (by decide) (by decide)).mpr (small.trans (by decide))
  refine isShort_int_iff.mpr ?_
  rw [integer, List.length_append]
  have sign_le : (if n < 0 then ['-'] else []).length ≤ 1 := by
    split <;> decide
  have limit : 20 ≤ digitLimit := by decide
  omega

theorem isShort_of_intOfFloat {x : Binary64} {n : Int} (read : intOfFloat x = .ok n) :
    IsShort (.int n) := by
  rw [intOfFloat.eq_def] at read
  split at read
  · split at read
    · split at read
      · rename_i small
        obtain rfl := Except.ok.inj read
        exact isShort_of_natAbs_lt small
      · contradiction
    · contradiction
  · contradiction

/-- An integer that is read can be written and read again. -/
theorem isShort_of_int {value : Value} {n : Int} (regular : value.Regular IsShort)
    (read : int value = .ok n) : IsShort (.int n) := by
  rw [int.eq_def] at read
  split at read
  · obtain rfl := Except.ok.inj read
    exact isShort_of_natAbs_lt (by split <;> decide)
  · obtain rfl := Except.ok.inj read
    exact Value.regular_scalar_iff.mp regular
  · exact isShort_of_intOfFloat read
  · split at read
    · exact isShort_of_intOfText read
    · contradiction
  · contradiction

/-! ## Decimals -/

theorem isCanonical_of_real? {text : List Char} {x : Binary64} (read : real? text = some x) :
    x.IsCanonical := by
  rw [real?] at read
  dsimp only at read
  split at read
  · obtain rfl := Option.some.inj read
    trivial
  · split at read
    · obtain rfl := Option.some.inj read
      trivial
    · exact isCanonical_of_decimal? read

/-- A decimal that is read is in its one form. -/
theorem isCanonical_of_float {value : Value} {x : Binary64} (regular : value.Regular HasForm)
    (read : float value = .ok x) : x.IsCanonical := by
  rw [float.eq_def] at read
  split at read
  · obtain rfl := Except.ok.inj read
    exact Binary64.ofRatio_isCanonical _ _ Nat.one_pos
  · obtain rfl := Except.ok.inj read
    exact Binary64.ofRatio_isCanonical _ _ Nat.one_pos
  · obtain rfl := Except.ok.inj read
    exact Value.regular_scalar_iff.mp regular
  · split at read
    · split at read
      · rename_i real_eq
        obtain rfl := Except.ok.inj read
        exact isCanonical_of_real? real_eq
      · exact nomatch read
    · contradiction
  · contradiction

end Read

end Hazard
