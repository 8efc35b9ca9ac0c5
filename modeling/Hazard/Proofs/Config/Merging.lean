import Hazard.Proofs.Config.Layering

/-!
# Laws of merging

At the end of a path of keys, a merged mapping has what the upper mapping has there, merged with what
the lower one has.  Where the upper mapping lacks a key, the lower one is left as it was.  Entries that
are merged into what they have been merged into already change nothing.
-/

namespace Hazard

/-! ## Paths of keys -/

namespace Value

/-- What is found at the end of a path of keys. -/
def under? : List Scalar → Value → Option Value
  | [], value => some value
  | key :: path, .map entries => (find? key entries).bind (under? path)
  | _ :: _, _ => none

/-- The value is a mapping. -/
def IsMap (value : Value) : Prop := ∃ entries, value = .map entries

theorem under?_nil (value : Value) : value.under? [] = some value := rfl

theorem under?_cons_map (key : Scalar) (path : List Scalar) (entries : List (Scalar × Value)) :
    (Value.map entries).under? (key :: path) = (find? key entries).bind (under? path) := rfl

theorem under?_append (path rest : List Scalar) (value : Value) :
    value.under? (path ++ rest) = (value.under? path).bind (under? rest) := by
  induction path generalizing value with
  | nil => rfl
  | cons key path ih =>
      cases value with
      | scalar | list => rfl
      | map entries =>
          rw [List.cons_append, under?_cons_map, under?_cons_map, Option.bind_assoc]
          congr 1
          funext inner
          exact ih inner

/-- A path leads nowhere from what is no mapping. -/
theorem bind_under?_cons {base : Option Value} (other : ¬ ∃ entries, base = some (.map entries))
    (key : Scalar) (path : List Scalar) : base.bind (under? (key :: path)) = none := by
  cases base with
  | none => rfl
  | some value =>
      cases value with
      | scalar | list => rfl
      | map entries => exact absurd ⟨entries, rfl⟩ other

theorem exists_of_under?_cons {key : Scalar} {path : List Scalar} {value found : Value}
    (there : value.under? (key :: path) = some found) :
    ∃ entries inner, value = .map entries ∧ find? key entries = some inner ∧
      inner.under? path = some found := by
  cases value with
  | scalar | list => contradiction
  | map entries =>
      obtain ⟨inner, held, below⟩ := Option.bind_eq_some_iff.mp there
      exact ⟨entries, inner, rfl, held, below⟩

instance (entries : List (Scalar × Value)) : Decidable (DistinctKeys entries) :=
  inferInstanceAs (Decidable (entries.Pairwise fun a b => a.1.sameKey b.1 = false))

theorem WellKeyed.once {entries : List (Scalar × Value)} (keyed : (Value.map entries).WellKeyed)
    (key : Scalar) : Once key entries := by
  cases keyed with
  | map distinct _ => exact distinct.once key

theorem WellKeyed.of_under? {path : List Scalar} {value found : Value} (keyed : value.WellKeyed)
    (there : value.under? path = some found) : found.WellKeyed := by
  induction path generalizing value with
  | nil => exact Option.some.inj there ▸ keyed
  | cons key path ih =>
      obtain ⟨entries, inner, rfl, held, below⟩ := exists_of_under?_cons there
      exact ih (keyed.of_find? held) below

/-- Each entry of a mapping with different keys is what is found under its key. -/
theorem DistinctKeys.find?_of_mem {entries : List (Scalar × Value)}
    (distinct : DistinctKeys entries) {entry : Scalar × Value} (member : entry ∈ entries) :
    find? entry.1 entries = some entry.2 := by
  induction entries with
  | nil => exact absurd member List.not_mem_nil
  | cons first entries ih =>
      obtain ⟨others, distinct⟩ := List.pairwise_cons.mp distinct
      rw [find?_cons]
      rcases List.mem_cons.mp member with rfl | member
      · rw [if_pos (Scalar.sameKey_refl _)]
      · rw [if_neg (Bool.eq_false_iff.mp (others entry member))]
        exact ih distinct member

theorem put_of_find?_eq_some {key : Scalar} {value : Value} {entries : List (Scalar × Value)}
    (found : find? key entries = some value) : put key value entries = entries := by
  induction entries with
  | nil => contradiction
  | cons entry entries ih =>
      rw [find?_cons] at found
      rw [put]
      split at found
      · rename_i here
        rw [if_pos here, ← Option.some.inj found]
      · rename_i elsewhere
        rw [if_neg elsewhere, ih found]

theorem put_of_find?_eq_none {key : Scalar} (value : Value) {entries : List (Scalar × Value)}
    (absent : find? key entries = none) : put key value entries = entries ++ [(key, value)] := by
  induction entries with
  | nil => rfl
  | cons entry entries ih =>
      rw [find?_cons] at absent
      rw [put]
      split at absent
      · contradiction
      · rename_i elsewhere
        rw [if_neg elsewhere, ih absent, List.cons_append]

end Value

namespace Config

open Value

/-! ## One value over another -/

theorem mergeValue_none (value : Value) : mergeValue none value = value := by
  cases value <;> rw [mergeValue.eq_def]

/-- Unless both are mappings, the upper value takes the place of the lower one. -/
theorem mergeValue_of_not_both {base : Option Value} {value : Value}
    (differ : ¬ value.IsMap ∨ ¬ ∃ known, base = some (.map known)) :
    mergeValue base value = value := by
  cases value with
  | scalar | list => rw [mergeValue.eq_def]
  | map entries =>
      have other := differ.resolve_left fun plain => plain ⟨entries, rfl⟩
      rw [mergeValue.eq_def]
      dsimp only
      split
      · exact absurd ⟨_, rfl⟩ other
      · rfl

/-- Where the upper value has something, it is merged with what the lower one has there. -/
theorem under?_mergeValue {path : List Scalar} {value found : Value} (keyed : value.WellKeyed)
    (there : value.under? path = some found) (base : Option Value) :
    (mergeValue base value).under? path = some (mergeValue (base.bind (under? path)) found) := by
  induction path generalizing value base with
  | nil =>
      obtain rfl := Option.some.inj there
      rw [under?_nil]
      congr 2
      exact (Option.bind_fun_some base).symm
  | cons key path ih =>
      obtain ⟨entries, inner, rfl, held, below⟩ := exists_of_under?_cons there
      by_cases both : ∃ known, base = some (.map known)
      · obtain ⟨known, rfl⟩ := both
        rw [mergeValue_map_map, under?_cons_map, find?_deepMerge (keyed.once key), held]
        exact ih (keyed.of_find? held) below (find? key known)
      · rw [mergeValue_of_not_both (.inr both), bind_under?_cons both, mergeValue_none, there]

/-- Where a mapping of the upper value lacks a key, all is as in the lower value. -/
theorem under?_mergeValue_of_absent {path : List Scalar} {value : Value} {entries : Entries}
    {key : Scalar} (keyed : value.WellKeyed) (there : value.under? path = some (.map entries))
    (absent : find? key entries = none) (base : Option Value) (rest : List Scalar) :
    (mergeValue base value).under? (path ++ key :: rest) =
      base.bind (under? (path ++ key :: rest)) := by
  have lower : base.bind (under? (path ++ key :: rest)) =
      (base.bind (under? path)).bind (under? (key :: rest)) := by
    rw [Option.bind_assoc]
    congr 1
    funext inner
    exact under?_append path (key :: rest) inner
  rw [lower, under?_append, under?_mergeValue keyed there, Option.bind_some]
  by_cases both : ∃ known, base.bind (under? path) = some (.map known)
  · obtain ⟨known, lower⟩ := both
    rw [lower, mergeValue_map_map, Option.bind_some, under?_cons_map, under?_cons_map,
      find?_deepMerge ((keyed.of_under? there).once key), absent]
    rfl
  · rw [mergeValue_of_not_both (.inr both), bind_under?_cons both, under?_cons_map, absent,
      Option.bind_none]

/-! ## What merging leaves as it is -/

/-- Entries change nothing if each is merged already into what stands under its key. -/
theorem deepMerge_of_absorbed {base entries : Entries}
    (absorbed : ∀ entry ∈ entries, ∃ value, find? entry.1 base = some value ∧
      mergeValue (some value) entry.2 = value) : deepMerge base entries = base := by
  induction entries with
  | nil => rw [deepMerge]
  | cons entry entries ih =>
      obtain ⟨⟨value, found, same⟩, absorbed⟩ := List.forall_mem_cons.mp absorbed
      rw [deepMerge, found, same, put_of_find?_eq_some found, ih absorbed]

theorem mergeValue_self {value : Value} (keyed : value.WellKeyed) :
    mergeValue (some value) value = value := by
  induction keyed with
  | scalar | list => rw [mergeValue.eq_def]
  | map distinct _ ih =>
      rw [mergeValue_map_map, deepMerge_of_absorbed]
      exact fun entry member => ⟨entry.2, distinct.find?_of_mem member, ih entry member⟩

/-- A value that is merged twice changes nothing the second time. -/
theorem mergeValue_mergeValue {value : Value} (keyed : value.WellKeyed) (base : Option Value) :
    mergeValue (some (mergeValue base value)) value = mergeValue base value := by
  induction keyed generalizing base with
  | scalar | list => rw [mergeValue.eq_def, mergeValue.eq_def]
  | @map entries distinct each ih =>
      by_cases both : ∃ known, base = some (.map known)
      · obtain ⟨known, rfl⟩ := both
        rw [mergeValue_map_map, mergeValue_map_map, deepMerge_of_absorbed]
        intro entry member
        refine ⟨mergeValue (find? entry.1 known) entry.2, ?_, ih entry member _⟩
        rw [find?_deepMerge (distinct.once entry.1), distinct.find?_of_mem member]
        rfl
      · rw [mergeValue_of_not_both (.inr both)]
        exact mergeValue_self (.map distinct each)

/-- Entries whose keys are new are added at the end. -/
theorem deepMerge_of_fresh {base entries : Entries} (distinct : DistinctKeys entries)
    (fresh : ∀ entry ∈ entries, find? entry.1 base = none) :
    deepMerge base entries = base ++ entries := by
  induction entries generalizing base with
  | nil => rw [deepMerge, List.append_nil]
  | cons entry entries ih =>
      obtain ⟨others, distinct⟩ := List.pairwise_cons.mp distinct
      obtain ⟨absent, fresh⟩ := List.forall_mem_cons.mp fresh
      rw [deepMerge, absent, mergeValue_none, ih distinct]
      · rw [put_of_find?_eq_none entry.2 absent, List.append_assoc, List.singleton_append]
      · intro other member
        rw [find?_put, if_neg (Bool.eq_false_iff.mp (others other member))]
        exact fresh other member

/-! ## The laws -/

theorem isSome_find?_deepMerge {base entries : Entries} {key : Scalar} (once : Once key entries) :
    (find? key (deepMerge base entries)).isSome ↔
      (find? key base).isSome ∨ (find? key entries).isSome := by
  rw [find?_deepMerge once]
  cases find? key entries with
  | none => simp [laidOver]
  | some value => simp [laidOver]

/-- Merging keeps the keys of both mappings.  At the end of a path it takes the upper value, merges two
mappings, and keeps the lower value where the upper mapping lacks the key.  Nothing changes where one of
the mappings is empty, where both are equal, or where the upper one was merged before. -/
theorem deepMerge_lawful {base entries : Entries} (baseKeyed : (Value.map base).WellKeyed)
    (keyed : (Value.map entries).WellKeyed) :
    (∀ key, (find? key (deepMerge base entries)).isSome ↔
      (find? key base).isSome ∨ (find? key entries).isSome) ∧
    (∀ path found, (Value.map entries).under? path = some found →
      (¬ found.IsMap ∨ ¬ ∃ known, (Value.map base).under? path = some (.map known)) →
        (Value.map (deepMerge base entries)).under? path = some found) ∧
    (∀ path known found, (Value.map base).under? path = some (.map known) →
      (Value.map entries).under? path = some (.map found) →
        (Value.map (deepMerge base entries)).under? path = some (.map (deepMerge known found))) ∧
    (∀ path found key rest, (Value.map entries).under? path = some (.map found) →
      find? key found = none →
        (Value.map (deepMerge base entries)).under? (path ++ key :: rest) =
          (Value.map base).under? (path ++ key :: rest)) ∧
    deepMerge base [] = base ∧ deepMerge [] base = base ∧ deepMerge base base = base ∧
      deepMerge (deepMerge base entries) entries = deepMerge base entries := by
  have merged : Value.map (deepMerge base entries) = mergeValue (some (.map base)) (.map entries) :=
    (mergeValue_map_map base entries).symm
  refine ⟨fun key => isSome_find?_deepMerge (keyed.once key), ?_, ?_, ?_, ?_, ?_, ?_, ?_⟩
  · intro path found there differ
    rw [merged, under?_mergeValue keyed there, Option.bind_some, mergeValue_of_not_both differ]
  · intro path known found lower there
    rw [merged, under?_mergeValue keyed there, Option.bind_some, lower, mergeValue_map_map]
  · intro path found key rest there absent
    rw [merged, under?_mergeValue_of_absent keyed there absent, Option.bind_some]
  · rw [deepMerge]
  · cases baseKeyed with
    | map distinct _ => exact deepMerge_of_fresh distinct fun _ _ => rfl
  · have same := mergeValue_self baseKeyed
    rw [mergeValue_map_map] at same
    exact Value.map.inj same
  · have same := mergeValue_mergeValue keyed (some (.map base))
    rw [mergeValue_map_map, mergeValue_map_map] at same
    exact Value.map.inj same

/-- A mapping with a list inside an inner mapping. -/
def lowerLayer : Entries :=
  [(.str "a", .map [(.str "x", .int 1), (.str "y", .list [.int 2])]), (.str "b", .int 3)]

/-- A mapping with a mapping where the lower one has a list, and with a text for a number. -/
def upperLayer : Entries :=
  [(.str "a", .map [(.str "y", .map [(.str "z", .int 4)])]), (.str "b", .str "c")]

theorem wellKeyed_lowerLayer : (Value.map lowerLayer).WellKeyed := by
  have inner : (Value.map [(.str "x", .int 1), (.str "y", .list [.int 2])]).WellKeyed :=
    .map (by decide) (by simp [WellKeyed.scalar, WellKeyed.list])
  exact .map (by decide) (by simp [lowerLayer, inner, WellKeyed.scalar])

theorem wellKeyed_upperLayer : (Value.map upperLayer).WellKeyed := by
  have innermost : (Value.map [(.str "z", .int 4)]).WellKeyed :=
    .map (by decide) (by simp [WellKeyed.scalar])
  have inner : (Value.map [(.str "y", .map [(.str "z", .int 4)])]).WellKeyed :=
    .map (by decide) (by simp [innermost])
  exact .map (by decide) (by simp [upperLayer, inner, WellKeyed.scalar])

/-- The mapping takes the place of the list, and what stands beside the list is kept. -/
theorem deepMerge_lowerLayer_upperLayer :
    (Value.map lowerLayer).WellKeyed ∧ (Value.map upperLayer).WellKeyed ∧
      (Value.map (deepMerge lowerLayer upperLayer)).under? [.str "a", .str "y"] =
        some (.map [(.str "z", .int 4)]) ∧
      (Value.map (deepMerge lowerLayer upperLayer)).under? [.str "a", .str "x"] = some (.int 1) ∧
      (Value.map (deepMerge lowerLayer upperLayer)).under? [.str "b"] = some (.str "c") ∧
      deepMerge (deepMerge lowerLayer upperLayer) upperLayer = deepMerge lowerLayer upperLayer := by
  obtain ⟨-, replaced, -, kept, -, -, -, twice⟩ :=
    deepMerge_lawful wellKeyed_lowerLayer wellKeyed_upperLayer
  refine ⟨wellKeyed_lowerLayer, wellKeyed_upperLayer, ?_, ?_, ?_, twice⟩
  · refine replaced [.str "a", .str "y"] _ rfl (.inr ?_)
    rintro ⟨known, list_eq⟩
    exact absurd (Option.some.inj list_eq) Value.noConfusion
  · exact kept [.str "a"] _ (.str "x") [] rfl rfl
  · refine replaced [.str "b"] _ rfl (.inl ?_)
    rintro ⟨known, text_eq⟩
    exact Value.noConfusion text_eq

end Config
end Hazard
