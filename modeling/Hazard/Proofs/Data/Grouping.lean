import Mathlib.Data.List.Induction
import Mathlib.Data.List.Nodup

/-!
# Tables in order of first appearance

A table is kept while items are read: an item with a new key adds an entry at the end, and any other
item changes the entry of its key.  At the end the table has the keys in order of first appearance,
each with what the items of that key come to, taken in the order in which they were read.  So the
items that the entries stand for are all items, rearranged.
-/

namespace Hazard
namespace Grouping

section

variable {κ : Type} [DecidableEq κ]

theorem eraseDups_append_singleton (keys : List κ) (key : κ) :
    (keys ++ [key]).eraseDups =
      if key ∈ keys then keys.eraseDups else keys.eraseDups ++ [key] := by
  rw [List.eraseDups_append, List.cons_removeAll]
  by_cases known : key ∈ keys
  · simp [known, List.removeAll]
  · simp [known, List.removeAll, List.eraseDups_cons]

/-- Without repetitions the keys stand in the order of their first appearance. -/
theorem pairwise_eraseDups (keys : List κ) :
    keys.eraseDups.Pairwise fun earlier later => keys.idxOf earlier < keys.idxOf later := by
  -- By the last key, since a key that appears again keeps its first place.
  induction keys using List.reverseRecOn with
  | nil => simp
  | append_singleton keys key ih =>
      have kept : keys.eraseDups.Pairwise fun earlier later =>
          (keys ++ [key]).idxOf earlier < (keys ++ [key]).idxOf later := by
        refine ih.imp_of_mem fun {earlier later} first second before => ?_
        rw [List.mem_eraseDups] at first second
        rwa [List.idxOf_append_of_mem first, List.idxOf_append_of_mem second]
      rw [eraseDups_append_singleton]
      split
      · exact kept
      · rename_i fresh
        refine List.pairwise_append.mpr ⟨kept, List.pairwise_singleton .., ?_⟩
        intro earlier first later second
        rw [List.mem_eraseDups] at first
        rw [List.mem_singleton.mp second, List.idxOf_append_of_mem first, List.idxOf_append,
          if_neg fresh]
        have bound := List.idxOf_lt_length_of_mem first
        omega

theorem nodup_eraseDups (keys : List κ) : keys.eraseDups.Nodup :=
  (pairwise_eraseDups keys).imp fun before same => absurd before (by simp [same])

end

/-! ## Keeping a table -/

section

variable {κ ν : Type} [DecidableEq κ] {key : κ} {keys : List κ} {value : κ → ν}

/-- Changes the value of a key; a new key goes to the end, with its first value. -/
def enter (key : κ) (first : ν) (next : ν → ν) : List (κ × ν) → List (κ × ν)
  | [] => [(key, first)]
  | (known, value) :: rest =>
    if known == key then (known, next value) :: rest
    else (known, value) :: enter key first next rest

theorem enter_of_notMem (fresh : key ∉ keys) (first : ν) (next : ν → ν) :
    enter key first next (keys.map fun key => (key, value key)) =
      keys.map (fun key => (key, value key)) ++ [(key, first)] := by
  induction keys with
  | nil => rfl
  | cons known keys ih =>
      obtain ⟨differs, fresh⟩ := not_or.mp (mt List.mem_cons.mpr fresh)
      rw [List.map_cons, enter, if_neg (by simpa using Ne.symm differs), ih fresh]
      rfl

theorem enter_of_mem (distinct : keys.Nodup) (member : key ∈ keys) (first : ν) (next : ν → ν) :
    enter key first next (keys.map fun key => (key, value key)) =
      keys.map fun known => (known, if known = key then next (value known) else value known) := by
  induction keys with
  | nil => contradiction
  | cons known keys ih =>
      obtain ⟨fresh, distinct⟩ := List.nodup_cons.mp distinct
      rw [List.map_cons, enter, List.map_cons]
      by_cases same : known = key
      · subst same
        have kept : (keys.map fun other => (other, value other)) = keys.map fun other =>
            (other, if other = known then next (value other) else value other) := by
          refine List.map_congr_left fun other member => ?_
          have differs : other ≠ known := fun same => fresh (same ▸ member)
          rw [if_neg differs]
        rw [if_pos (beq_self_eq_true known), if_pos rfl, kept]
      · have later : key ∈ keys := by simpa [Ne.symm same] using member
        rw [if_neg (by simpa using same), if_neg same, ih distinct later]

theorem lookup_map_pair (keys : List κ) (value : κ → ν) (key : κ) :
    (keys.map fun key => (key, value key)).lookup key =
      if key ∈ keys then some (value key) else none := by
  induction keys with
  | nil => rfl
  | cons known keys ih =>
      rw [List.map_cons, List.lookup_cons, ih]
      by_cases same : key = known
      · simp [same]
      · rw [beq_false_of_ne same]
        simp [same]

end

section

variable {α κ ν : Type} [DecidableEq κ] {first : α → ν} {next : α → ν → ν} {value : List α → ν}

/-- The value of items is told by the first one, and changed by each of the others. -/
structure Accumulates (first : α → ν) (next : α → ν → ν) (value : List α → ν) : Prop where
  singleton (item : α) : value [item] = first item
  append_singleton {items : List α} (started : items ≠ []) (item : α) :
    value (items ++ [item]) = next item (value items)

theorem accumulates_length :
    Accumulates (fun _ : α => 1) (fun _ count => count + 1) List.length where
  singleton _ := rfl
  append_singleton _ _ := List.length_append

theorem accumulates_self :
    Accumulates (fun item : α => [item]) (fun item items => items ++ [item]) fun items => items where
  singleton _ := rfl
  append_singleton _ _ := rfl

/-- The items of a key, in their order. -/
def withKey (key : α → κ) (items : List α) (wanted : κ) : List α :=
  items.filter fun item => key item == wanted

theorem mem_withKey_iff {key : α → κ} {items : List α} {wanted : κ} {item : α} :
    item ∈ withKey key items wanted ↔ item ∈ items ∧ key item = wanted := by
  rw [withKey, List.mem_filter, beq_iff_eq]

theorem withKey_ne_nil {key : α → κ} {items : List α} {wanted : κ}
    (member : wanted ∈ items.map key) : withKey key items wanted ≠ [] := by
  obtain ⟨item, member, same⟩ := List.mem_map.mp member
  exact List.ne_nil_of_mem (mem_withKey_iff.mpr ⟨member, same⟩)

theorem withKey_eq_nil {key : α → κ} {items : List α} {wanted : κ}
    (missing : wanted ∉ items.map key) : withKey key items wanted = [] := by
  refine List.filter_eq_nil_iff.mpr fun item member same => missing ?_
  exact List.mem_map.mpr ⟨item, member, beq_iff_eq.mp same⟩

theorem withKey_append (key : α → κ) (items others : List α) (wanted : κ) :
    withKey key (items ++ others) wanted = withKey key items wanted ++ withKey key others wanted :=
  List.filter_append ..

theorem withKey_singleton (key : α → κ) (item : α) (wanted : κ) :
    withKey key [item] wanted = if wanted = key item then [item] else [] := by
  by_cases same : wanted = key item
  · simp [withKey, same]
  · have differs : ¬ key item = wanted := Ne.symm same
    simp [withKey, same, differs]

/-- A table that is kept item by item has the keys in order of first appearance, each with the value
of its items. -/
theorem foldl_enter (accumulates : Accumulates first next value) (key : α → κ) (items : List α) :
    items.foldl (fun entries item => enter (key item) (first item) (next item) entries) [] =
      (items.map key).eraseDups.map fun wanted => (wanted, value (withKey key items wanted)) := by
  induction items using List.reverseRecOn with
  | nil => rfl
  | append_singleton items item ih =>
      rw [List.foldl_append, ih, List.foldl_cons, List.foldl_nil, List.map_append, List.map_singleton,
        eraseDups_append_singleton]
      by_cases known : key item ∈ items.map key
      · rw [enter_of_mem (nodup_eraseDups _) (List.mem_eraseDups.mpr known), if_pos known]
        refine List.map_congr_left fun wanted _ => ?_
        rw [withKey_append, withKey_singleton]
        split
        · rename_i same
          rw [accumulates.append_singleton (withKey_ne_nil (same ▸ known))]
        · rw [List.append_nil]
      · rw [enter_of_notMem (by rwa [List.mem_eraseDups]), if_neg known, List.map_append]
        congr 1
        · refine List.map_congr_left fun wanted member => ?_
          have differs : wanted ≠ key item := by
            rintro rfl
            exact known (List.mem_eraseDups.mp member)
          rw [withKey_append, withKey_singleton, if_neg differs, List.append_nil]
        · rw [List.map_singleton, withKey_append, withKey_singleton, if_pos rfl, withKey_eq_nil known,
            List.nil_append, accumulates.singleton]

/-! ## What the entries stand for -/

/-- Taken key by key, the items are all there. -/
theorem flatMap_withKey_perm {key : α → κ} {keys : List κ} (distinct : keys.Nodup) {items : List α}
    (covered : ∀ item ∈ items, key item ∈ keys) : (keys.flatMap (withKey key items)).Perm items := by
  induction keys generalizing items with
  | nil =>
      rw [List.eq_nil_iff_forall_not_mem.mpr fun item member => List.not_mem_nil (covered item member)]
      exact .refl _
  | cons wanted keys ih =>
      obtain ⟨fresh, distinct⟩ := List.nodup_cons.mp distinct
      -- The other keys do not see the items of the first one.
      have others : keys.flatMap (withKey key items) =
          keys.flatMap (withKey key (items.filter fun item => !(key item == wanted))) := by
        refine List.flatMap_congr fun other member => ?_
        have differs : other ≠ wanted := fun same => fresh (same ▸ member)
        rw [withKey, withKey, List.filter_filter]
        refine List.filter_congr fun item _ => ?_
        by_cases same : key item = other
        · simp [same, differs]
        · simp [same]
      have left : ∀ item ∈ items.filter (fun item => !(key item == wanted)), key item ∈ keys := by
        intro item member
        obtain ⟨member, differs⟩ := List.mem_filter.mp member
        exact (List.mem_cons.mp (covered item member)).resolve_left (by simpa using differs)
      rw [List.flatMap_cons, others]
      exact ((ih distinct left).append_left _).trans (List.filter_append_perm _ items)

theorem flatMap_eraseDups_perm (key : α → κ) (items : List α) :
    ((items.map key).eraseDups.flatMap (withKey key items)).Perm items :=
  flatMap_withKey_perm (nodup_eraseDups _) fun _ member =>
    List.mem_eraseDups.mpr (List.mem_map_of_mem member)

end

end Grouping
end Hazard
