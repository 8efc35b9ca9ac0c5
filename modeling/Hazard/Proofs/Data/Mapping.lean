import Hazard.Data.Value

/-!
# Entries of mappings

Two scalars may name one entry without being equal, so keys are compared up to that.  What is found
under a key after entries were put into a mapping is what was put there last, or what was there before.
A mapping that is built by putting entries has different keys.
-/

namespace Hazard

/-! ## Keys -/

namespace Scalar

theorem sameKey_refl (key : Scalar) : key.sameKey key = true := by
  simp [sameKey]

theorem sameKey_iff (a b : Scalar) :
    a.sameKey b = true ↔ a = b ∨ ∃ n, a.asInt? = some n ∧ b.asInt? = some n := by
  rw [sameKey, Bool.or_eq_true, beq_iff_eq]
  refine or_congr_right ?_
  cases a.asInt? with
  | none => simp
  | some m =>
      cases b.asInt? with
      | none => simp
      | some n => simp [eq_comm (a := n)]

theorem sameKey_comm (a b : Scalar) : a.sameKey b = b.sameKey a := by
  rw [Bool.eq_iff_iff, sameKey_iff, sameKey_iff, eq_comm]
  simp only [and_comm]

theorem sameKey_trans {a b c : Scalar} (first : a.sameKey b = true) (second : b.sameKey c = true) :
    a.sameKey c = true := by
  rw [sameKey_iff] at first second ⊢
  rcases first with rfl | ⟨n, ofA, ofB⟩
  · exact second
  · rcases second with rfl | ⟨m, ofB', ofC⟩
    · exact .inr ⟨n, ofA, ofB⟩
    · obtain rfl : n = m := Option.some.inj (ofB.symm.trans ofB')
      exact .inr ⟨n, ofA, ofC⟩

/-- Scalars that name one entry are told from others alike. -/
theorem sameKey_congr {a b : Scalar} (same : a.sameKey b = true) (c : Scalar) :
    a.sameKey c = b.sameKey c := by
  rw [Bool.eq_iff_iff]
  constructor
  · exact sameKey_trans ((sameKey_comm b a).trans same)
  · exact sameKey_trans same

theorem sameKey_str (key other : String) :
    (Scalar.str key).sameKey (.str other) = (key == other) := by
  rw [Bool.eq_iff_iff, sameKey_iff, beq_iff_eq]
  simp [asInt?]

/-- Only a text names the entry of a text. -/
theorem sameKey_str_iff (key : Scalar) (text : String) :
    key.sameKey (.str text) = true ↔ key = .str text := by
  simp [sameKey_iff, asInt?]

end Scalar

namespace Value

/-! ## What is found -/

@[simp] theorem find?_nil (key : Scalar) : find? key [] = none := rfl

theorem find?_cons (key : Scalar) (entry : Scalar × Value) (entries : List (Scalar × Value)) :
    find? key (entry :: entries) =
      if entry.1.sameKey key then some entry.2 else find? key entries := by
  rw [find?, find?, List.find?_cons]
  cases entry.1.sameKey key <;> rfl

theorem find?_eq_none_iff {key : Scalar} {entries : List (Scalar × Value)} :
    find? key entries = none ↔ ∀ entry ∈ entries, entry.1.sameKey key = false := by
  simp [find?]

theorem find?_put (key other : Scalar) (value : Value) (entries : List (Scalar × Value)) :
    find? key (put other value entries) =
      if other.sameKey key then some value else find? key entries := by
  induction entries with
  | nil => rw [put, find?_cons]
  | cons entry entries ih =>
      rw [put]
      by_cases replaced : entry.1.sameKey other
      · have same := Scalar.sameKey_congr replaced key
        rw [if_pos replaced, find?_cons, find?_cons, same]
        split <;> rfl
      · rw [if_neg replaced, find?_cons, find?_cons, ih]
        by_cases here : entry.1.sameKey key
        · have differs : other.sameKey key ≠ true := fun there =>
            replaced (Scalar.sameKey_trans here ((Scalar.sameKey_comm key other).trans there))
          rw [if_pos here, if_pos here, if_neg differs]
        · rw [if_neg here, if_neg here]

/-- The entries have at most one entry under the key. -/
def Once (key : Scalar) (entries : List (Scalar × Value)) : Prop :=
  (entries.filter fun entry => entry.1.sameKey key).length ≤ 1

theorem Once.tail {key : Scalar} {entry : Scalar × Value} {entries : List (Scalar × Value)}
    (once : Once key (entry :: entries)) : Once key entries := by
  refine Nat.le_trans ?_ once
  rw [List.filter_cons]
  split
  · exact Nat.le_succ _
  · exact Nat.le_refl _

theorem Once.find?_tail {key : Scalar} {entry : Scalar × Value} {entries : List (Scalar × Value)}
    (once : Once key (entry :: entries)) (here : entry.1.sameKey key = true) :
    find? key entries = none := by
  rw [Once, List.filter_cons, if_pos here, List.length_cons] at once
  rw [find?_eq_none_iff]
  have none_left : entries.filter (fun other => other.1.sameKey key) = [] :=
    List.length_eq_zero_iff.mp (by omega)
  simpa using List.filter_eq_nil_iff.mp none_left

/-- Of entries that are put into others, the one under a key is found. -/
theorem find?_foldl_put {key : Scalar} {entries : List (Scalar × Value)} (once : Once key entries)
    (base : List (Scalar × Value)) :
    find? key (entries.foldl (fun known entry => put entry.1 entry.2 known) base) =
      (find? key entries).or (find? key base) := by
  induction entries generalizing base with
  | nil => rfl
  | cons entry entries ih =>
      rw [List.foldl_cons, ih once.tail, find?_put, find?_cons]
      by_cases here : entry.1.sameKey key
      · rw [once.find?_tail here, if_pos here, if_pos here]
        rfl
      · rw [if_neg here, if_neg here]

/-- Of entries that are put into others, the last one under a key is found. -/
theorem find?_foldl_put_reverse (key : Scalar) (entries base : List (Scalar × Value)) :
    find? key (entries.foldl (fun known entry => put entry.1 entry.2 known) base) =
      (find? key entries.reverse).or (find? key base) := by
  induction entries generalizing base with
  | nil => rfl
  | cons entry entries ih =>
      have last : find? key (entries.reverse ++ [entry]) =
          (find? key entries.reverse).or (find? key [entry]) := by
        rw [find?, List.find?_append, Option.map_or]
        rfl
      rw [List.foldl_cons, ih, List.reverse_cons, last, find?_put, find?_cons, find?_nil,
        Option.or_assoc]
      split <;> rfl

/-! ## Different keys -/

/-- No two entries have one key. -/
def DistinctKeys (entries : List (Scalar × Value)) : Prop :=
  entries.Pairwise fun a b => a.1.sameKey b.1 = false

/-- The keys of all mappings in a value are different. -/
inductive WellKeyed : Value → Prop
  | scalar (value : Scalar) : WellKeyed (.scalar value)
  | list {items : List Value} (each : ∀ item ∈ items, WellKeyed item) : WellKeyed (.list items)
  | map {entries : List (Scalar × Value)} (distinct : DistinctKeys entries)
      (each : ∀ entry ∈ entries, WellKeyed entry.2) : WellKeyed (.map entries)

theorem DistinctKeys.once {entries : List (Scalar × Value)} (distinct : DistinctKeys entries)
    (key : Scalar) : Once key entries := by
  induction entries with
  | nil => exact Nat.zero_le 1
  | cons entry entries ih =>
      obtain ⟨others, distinct⟩ := List.pairwise_cons.mp distinct
      rw [Once, List.filter_cons]
      split
      · rename_i here
        have none_left : entries.filter (fun other => other.1.sameKey key) = [] := by
          rw [List.filter_eq_nil_iff]
          intro other member there
          have same := Scalar.sameKey_trans here ((Scalar.sameKey_comm key other.1).trans there)
          rw [others other member] at same
          exact absurd same Bool.false_ne_true
        rw [List.length_cons, none_left]
        exact Nat.le_refl 1
      · exact ih distinct

/-- An entry of a mapping after one more was put is the new one, under a key that names it, or was
there. -/
theorem mem_put {key : Scalar} {value : Value} {entries : List (Scalar × Value)}
    {entry : Scalar × Value} (member : entry ∈ put key value entries) :
    (entry.1.sameKey key = true ∧ entry.2 = value) ∨ entry ∈ entries := by
  induction entries with
  | nil =>
      obtain rfl := List.mem_singleton.mp member
      exact .inl ⟨Scalar.sameKey_refl key, rfl⟩
  | cons first entries ih =>
      rw [put] at member
      split at member
      · rename_i same
        rcases List.mem_cons.mp member with rfl | member
        · exact .inl ⟨same, rfl⟩
        · exact .inr (List.mem_cons_of_mem _ member)
      · rcases List.mem_cons.mp member with rfl | member
        · exact .inr List.mem_cons_self
        · rcases ih member with new | old
          · exact .inl new
          · exact .inr (List.mem_cons_of_mem _ old)

theorem DistinctKeys.put {entries : List (Scalar × Value)} (distinct : DistinctKeys entries)
    (key : Scalar) (value : Value) : DistinctKeys (put key value entries) := by
  induction entries with
  | nil => exact List.pairwise_singleton _ _
  | cons entry entries ih =>
      obtain ⟨others, distinct⟩ := List.pairwise_cons.mp distinct
      rw [Value.put]
      split
      · exact List.pairwise_cons.mpr ⟨others, distinct⟩
      · rename_i differs
        refine List.pairwise_cons.mpr ⟨fun other member => ?_, ih distinct⟩
        rcases mem_put member with ⟨same, -⟩ | member
        · rw [Bool.eq_false_iff]
          exact fun here => differs (Scalar.sameKey_trans here same)
        · exact others other member

theorem distinctKeys_foldl_put {base : List (Scalar × Value)} (distinct : DistinctKeys base)
    (entries : List (Scalar × Value)) :
    DistinctKeys (entries.foldl (fun known entry => Value.put entry.1 entry.2 known) base) := by
  induction entries generalizing base with
  | nil => exact distinct
  | cons entry entries ih => exact ih (distinct.put entry.1 entry.2)

theorem distinctKeys_ofEntries (entries : List (Scalar × Value)) : DistinctKeys (ofEntries entries) :=
  distinctKeys_foldl_put List.Pairwise.nil entries

theorem mem_foldl_put {base entries : List (Scalar × Value)} {entry : Scalar × Value}
    (member : entry ∈ entries.foldl (fun known entry => Value.put entry.1 entry.2 known) base) :
    (∃ other ∈ entries, other.2 = entry.2) ∨ entry ∈ base := by
  induction entries generalizing base with
  | nil => exact .inr member
  | cons first entries ih =>
      rcases ih member with ⟨other, listed, same⟩ | member
      · exact .inl ⟨other, List.mem_cons_of_mem first listed, same⟩
      · rcases mem_put member with ⟨-, same⟩ | member
        · exact .inl ⟨first, List.mem_cons_self, same.symm⟩
        · exact .inr member

theorem WellKeyed.ofEntries {entries : List (Scalar × Value)}
    (each : ∀ entry ∈ entries, entry.2.WellKeyed) : (Value.map (ofEntries entries)).WellKeyed := by
  refine .map (distinctKeys_ofEntries entries) fun entry member => ?_
  rcases mem_foldl_put member with ⟨other, listed, same⟩ | member
  · exact same ▸ each other listed
  · exact absurd member List.not_mem_nil

theorem WellKeyed.of_find? {entries : List (Scalar × Value)} (keyed : (Value.map entries).WellKeyed)
    {key : Scalar} {value : Value} (found : find? key entries = some value) : value.WellKeyed := by
  obtain ⟨entry, first, rfl⟩ := Option.map_eq_some_iff.mp found
  cases keyed with
  | map _ each => exact each entry (List.mem_of_find?_eq_some first)

end Value
end Hazard
