import Hazard.Data.Yaml.Load
import Hazard.Proofs.Data.Mapping

/-!
# Keys of mappings that are read

A mapping in a YAML text may write a key twice or bring it in by a merge, but the value that is read has
every key once, in this mapping and in all mappings inside it.
-/

namespace Hazard.Yaml

namespace Built

variable {α β γ : Type}

theorem both_eq_ok_iff {f : α → β → γ} {first : Built α} {second : Built β} {result : γ} :
    both f first second = .ok result ↔ ∃ a b, first = .ok a ∧ second = .ok b ∧ f a b = result := by
  cases first <;> cases second <;> simp [both]

/-- Another error for the one that came up makes no value. -/
theorem mapError_eq_ok_iff {ε ε' : Type} {change : ε → ε'} {read : Except ε α} {value : α} :
    read.mapError change = .ok value ↔ read = .ok value := by
  cases read with
  | ok found =>
      have kept : (Except.ok found : Except ε α).mapError change = .ok found := rfl
      rw [kept, Except.ok.injEq, Except.ok.injEq]
  | error fault =>
      have changed : (Except.error fault : Except ε α).mapError change = .error (change fault) := rfl
      simp [changed]

theorem later_eq_ok_iff {built : Built α} {value : α} :
    built.later = .ok value ↔ built = .ok value :=
  mapError_eq_ok_iff

theorem atOnce_eq_ok_iff {read : Except ReadError α} {value : α} :
    atOnce read = .ok value ↔ read = .ok value :=
  mapError_eq_ok_iff

theorem map_eq_ok_iff {built : Built α} {f : α → β} {result : β} :
    built.map f = .ok result ↔ ∃ value, built = .ok value ∧ f value = result := by
  cases built <;> simp [Except.map]

end Built

open Built

/-- The mappings in the entries that are built have every key once. -/
def KeyedAll (built : Built (List (Scalar × Value))) : Prop :=
  ∀ entries, built = .ok entries → ∀ entry ∈ entries, entry.2.WellKeyed

theorem keyedAll_nil : KeyedAll (.ok []) := by
  intro entries built
  obtain rfl := Except.ok.inj built
  exact List.forall_mem_nil _

theorem keyedAll_malformed : KeyedAll .malformed := by
  intro entries built
  contradiction

theorem KeyedAll.append {first second : Built (List (Scalar × Value))} (firstKeyed : KeyedAll first)
    (secondKeyed : KeyedAll second) : KeyedAll (both (· ++ ·) first second) := by
  intro entries built
  obtain ⟨before, after, first_eq, second_eq, rfl⟩ := both_eq_ok_iff.mp built
  exact List.forall_mem_append.mpr ⟨firstKeyed before first_eq, secondKeyed after second_eq⟩

theorem KeyedAll.cons {name : Built Scalar} {item : Built Value} {rest : Built (List (Scalar × Value))}
    (itemKeyed : ∀ value, item = .ok value → value.WellKeyed) (restKeyed : KeyedAll rest) :
    KeyedAll (both List.cons (both Prod.mk name item) rest) := by
  intro entries built
  obtain ⟨entry, others, entry_eq, rest_eq, rfl⟩ := both_eq_ok_iff.mp built
  obtain ⟨key, value, -, item_eq, rfl⟩ := both_eq_ok_iff.mp entry_eq
  exact List.forall_mem_cons.mpr ⟨itemKeyed value item_eq, restKeyed others rest_eq⟩

/-- The entries that merges bring and those that a mapping has itself have every key once inside
them. -/
structure MergedEntries.Keyed (entries : MergedEntries) : Prop where
  /-- So have those that merges bring. -/
  brought : KeyedAll entries.brought
  /-- So have those that the mapping has itself. -/
  own : KeyedAll entries.own

theorem MergedEntries.Keyed.all {entries : MergedEntries} (keyed : entries.Keyed) :
    KeyedAll entries.all := by
  rw [MergedEntries.all]
  split
  · exact keyedAll_malformed
  · exact keyed.brought.append keyed.own

theorem wellKeyed_of_scalar {read : Except ReadError Scalar} {value : Value}
    (built : atOnce (read.map .scalar) = .ok value) : value.WellKeyed := by
  have read_eq := atOnce_eq_ok_iff.mp built
  cases read with
  | error fault => contradiction
  | ok scalar =>
      obtain rfl := Except.ok.inj read_eq
      exact .scalar scalar

theorem misfit_ne_ok (tag : Tag) (value : Value) : misfit tag ≠ .ok value := by
  rw [misfit]
  split
  · rw [Ne, later_eq_ok_iff]
    simp [malformed]
  · simp [malformed]

mutual

theorem wellKeyed_of_valueOf (node : Node) {value : Value} (built : valueOf node = .ok value) :
    value.WellKeyed := by
  cases node with
  | scalar tag text =>
      rw [valueOf.eq_def] at built
      dsimp only at built
      split at built
      · exact absurd built (misfit_ne_ok tag value)
      · exact wellKeyed_of_scalar built
  | sequence tag items =>
      rw [valueOf.eq_def] at built
      dsimp only at built
      split at built
      · obtain ⟨values, values_eq, rfl⟩ := map_eq_ok_iff.mp built
        exact .list (wellKeyed_of_valuesOf items (later_eq_ok_iff.mp values_eq))
      · obtain ⟨pairs, pairs_eq, rfl⟩ := map_eq_ok_iff.mp built
        exact .list (wellKeyed_of_pairsOf items (later_eq_ok_iff.mp pairs_eq))
      · obtain ⟨pairs, pairs_eq, rfl⟩ := map_eq_ok_iff.mp built
        exact .list (wellKeyed_of_pairsOf items (later_eq_ok_iff.mp pairs_eq))
      · exact absurd built (misfit_ne_ok _ value)
  | mapping tag entries =>
      rw [valueOf.eq_def] at built
      dsimp only at built
      split at built
      · obtain ⟨all, all_eq, rfl⟩ := map_eq_ok_iff.mp built
        exact .ofEntries ((keyed_entriesOf entries).all all (later_eq_ok_iff.mp all_eq))
      · obtain ⟨all, -, rfl⟩ := map_eq_ok_iff.mp built
        refine .list fun item member => ?_
        obtain ⟨entry, -, rfl⟩ := List.mem_map.mp member
        exact .scalar entry.1
      · exact absurd built (misfit_ne_ok _ value)
      · exact absurd built (misfit_ne_ok _ value)
      · exact absurd built (misfit_ne_ok _ value)
      · split at built
        · exact wellKeyed_of_scalar built
        · exact absurd built (misfit_ne_ok _ value)
  | recurring =>
      rw [valueOf] at built
      obtain rfl := Except.ok.inj built
      exact .scalar .recurring

theorem wellKeyed_of_valuesOf (nodes : List Node) {values : List Value}
    (built : valuesOf nodes = .ok values) : ∀ value ∈ values, value.WellKeyed := by
  cases nodes with
  | nil =>
      rw [valuesOf] at built
      obtain rfl := Except.ok.inj built
      exact List.forall_mem_nil _
  | cons node rest =>
      rw [valuesOf] at built
      obtain ⟨first, others, first_eq, others_eq, rfl⟩ := both_eq_ok_iff.mp built
      exact List.forall_mem_cons.mpr
        ⟨wellKeyed_of_valueOf node first_eq, wellKeyed_of_valuesOf rest others_eq⟩

theorem wellKeyed_of_pairsOf (nodes : List Node) {pairs : List Value}
    (built : pairsOf nodes = .ok pairs) : ∀ pair ∈ pairs, pair.WellKeyed := by
  cases nodes with
  | nil =>
      rw [pairsOf] at built
      obtain rfl := Except.ok.inj built
      exact List.forall_mem_nil _
  | cons node rest =>
      cases node with
      | scalar | sequence | recurring =>
          rw [pairsOf.eq_def] at built
          contradiction
      | mapping tag entries =>
          cases entries with
          | nil =>
              rw [pairsOf.eq_def] at built
              contradiction
          | cons entry more =>
              cases more with
              | cons =>
                  rw [pairsOf.eq_def] at built
                  contradiction
              | nil =>
                  obtain ⟨key, item⟩ := entry
                  rw [pairsOf] at built
                  obtain ⟨pair, others, pair_eq, others_eq, rfl⟩ := both_eq_ok_iff.mp built
                  obtain ⟨first, second, first_eq, second_eq, rfl⟩ := both_eq_ok_iff.mp pair_eq
                  refine List.forall_mem_cons.mpr
                    ⟨.list ?_, wellKeyed_of_pairsOf rest others_eq⟩
                  exact List.forall_mem_cons.mpr ⟨wellKeyed_of_valueOf key first_eq,
                    List.forall_mem_singleton.mpr (wellKeyed_of_valueOf item second_eq)⟩

theorem keyed_entriesOf (entries : List (Node × Node)) : (entriesOf entries).Keyed := by
  cases entries with
  | nil =>
      rw [entriesOf]
      exact ⟨keyedAll_nil, keyedAll_nil⟩
  | cons entry rest =>
      obtain ⟨key, item⟩ := entry
      have below := keyed_entriesOf rest
      rw [entriesOf.eq_def]
      dsimp only
      split
      · split
        · rename_i first brought_eq
          exact ⟨(keyedAll_broughtBy item brought_eq).append below.brought, below.own⟩
        · exact ⟨below.brought, below.own⟩
      · have itemKeyed : ∀ value, valueOf item = .ok value → value.WellKeyed :=
          fun value built => wellKeyed_of_valueOf item built
        exact ⟨below.brought, below.own.cons itemKeyed⟩

theorem keyedAll_broughtBy (node : Node) {brought : Built (List (Scalar × Value))}
    (brings : broughtBy node = some brought) : KeyedAll brought := by
  cases node with
  | scalar tag text =>
      rw [broughtBy] at brings
      contradiction
  | sequence tag items =>
      rw [broughtBy] at brings
      exact keyedAll_broughtByAll items brings
  | mapping tag entries =>
      rw [broughtBy] at brings
      split at brings
      · contradiction
      · obtain rfl := Option.some.inj brings
        exact (keyed_entriesOf entries).all
  | recurring =>
      rw [broughtBy] at brings
      obtain rfl := Option.some.inj brings
      exact keyedAll_nil

theorem keyedAll_broughtByAll (nodes : List Node) {brought : Built (List (Scalar × Value))}
    (brings : broughtByAll nodes = some brought) : KeyedAll brought := by
  cases nodes with
  | nil =>
      rw [broughtByAll] at brings
      obtain rfl := Option.some.inj brings
      exact keyedAll_nil
  | cons node rest =>
      cases node with
      | scalar | sequence =>
          rw [broughtByAll.eq_def] at brings
          contradiction
      | mapping tag entries =>
          rw [broughtByAll] at brings
          split at brings
          · contradiction
          · obtain ⟨others, others_eq, rfl⟩ := Option.map_eq_some_iff.mp brings
            exact (keyedAll_broughtByAll rest others_eq).append (keyed_entriesOf entries).all
      | recurring =>
          rw [broughtByAll] at brings
          exact keyedAll_broughtByAll rest brings

end

/-- Every mapping in a value that is read has different keys. -/
theorem wellKeyed_of_read {text : List Char} {value : Value} (parsed : read text = .ok value) :
    value.WellKeyed := by
  rw [read] at parsed
  split at parsed
  · contradiction
  · obtain rfl := Except.ok.inj parsed
    exact .scalar .null
  · rename_i node _
    refine wellKeyed_of_valueOf node ?_
    exact mapError_eq_ok_iff.mp parsed

end Hazard.Yaml
