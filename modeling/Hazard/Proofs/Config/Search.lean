import Hazard.Config.Discovery

/-!
# How a search for a configuration ends

A folder either settles a search or lets it pass, and the nearest folder that settles it decides the
outcome: a file, or a manifest that makes the search fail.  This holds however manifests are read.
-/

namespace Hazard
namespace Config

/-- The folder has no file with a usual name. -/
def Nameless (store : Store) (folder : Address) : Prop :=
  ∀ name ∈ fileNames, hasFileAt store folder name = false

/-- A search goes on past the folder. -/
structure Passes (store : Store) (reader : ManifestReader) (folder : Address) : Prop where
  /-- No file there has a usual name. -/
  nameless : Nameless store folder
  /-- The manifest there, if there is one, is malformed or holds no configuration. -/
  quiet : manifestOf store folder reader = .silent ∨ manifestOf store folder reader = .malformed

/-- A search that comes to the folder ends there, with a file or with an error. -/
inductive Settles (store : Store) (reader : ManifestReader) (folder : Address) :
    Except SearchError Path → Prop
  | file {earlier later : List String} {name : String}
      (names : fileNames = earlier ++ name :: later)
      (present : hasFileAt store folder name = true)
      (preferred : ∀ other ∈ earlier, hasFileAt store folder other = false) :
      Settles store reader folder (.ok (store.pathOf (folder ++ [name])))
  | manifest (nameless : Nameless store folder)
      (speaks : manifestOf store folder reader = .speaks) :
      Settles store reader folder (.ok (store.pathOf (folder ++ [manifestName])))
  | unreadable {fault : SearchError} (nameless : Nameless store folder)
      (unreadable : manifestOf store folder reader = .unreadable fault) :
      Settles store reader folder (.error fault)

/-- The first of the folders that does not let the search pass ends it. -/
def Ends (store : Store) (reader : ManifestReader) (folders : List Address)
    (ending : Except SearchError Path) : Prop :=
  ∃ nearer folder farther, folders = nearer ++ folder :: farther ∧
    (∀ other ∈ nearer, Passes store reader other) ∧ Settles store reader folder ending

variable {store : Store} {reader : ManifestReader}

theorem Nameless.find?_eq {folder : Address} (nameless : Nameless store folder) :
    fileNames.find? (hasFileAt store folder) = none := by
  rw [List.find?_eq_none]
  intro name member
  simp [nameless name member]

/-- A folder that lets a search pass changes nothing about its outcome. -/
theorem Passes.searchIn_cons {folder : Address} (passes : Passes store reader folder)
    (rest : List Address) :
    (searchIn store reader (folder :: rest)).outcome = (searchIn store reader rest).outcome := by
  rw [searchIn, passes.nameless.find?_eq]
  rcases passes.quiet with quiet | quiet <;> rw [quiet]
  rfl

/-- A folder that settles a search decides its outcome. -/
theorem Settles.searchIn_cons {folder : Address} {ending : Except SearchError Path}
    (settles : Settles store reader folder ending) (rest : List Address) :
    (searchIn store reader (folder :: rest)).outcome = ending.map some := by
  rw [searchIn]
  cases settles with
  | file names present preferred =>
      have found : fileNames.find? (hasFileAt store folder) = some _ :=
        List.find?_eq_some_iff_append.mpr ⟨present, _, _, names, by simpa using preferred⟩
      rw [found]
      rfl
  | manifest nameless speaks =>
      rw [nameless.find?_eq, speaks]
      rfl
  | unreadable nameless unreadable =>
      rw [nameless.find?_eq, unreadable]
      rfl

variable (store reader) in
theorem passes_or_settles (folder : Address) :
    Passes store reader folder ∨ ∃ ending, Settles store reader folder ending := by
  cases found : fileNames.find? (hasFileAt store folder) with
  | some name =>
      obtain ⟨present, earlier, later, names, preferred⟩ :=
        List.find?_eq_some_iff_append.mp found
      exact .inr ⟨_, .file names present (by simpa using preferred)⟩
  | none =>
      have nameless : Nameless store folder := by
        intro name member
        simpa using List.find?_eq_none.mp found name member
      cases said : manifestOf store folder reader with
      | silent => exact .inl ⟨nameless, .inl said⟩
      | malformed => exact .inl ⟨nameless, .inr said⟩
      | speaks => exact .inr ⟨_, .manifest nameless said⟩
      | unreadable fault => exact .inr ⟨_, .unreadable nameless said⟩

theorem Ends.searchIn_outcome {folders : List Address} {ending : Except SearchError Path}
    (ends : Ends store reader folders ending) :
    (searchIn store reader folders).outcome = ending.map some := by
  obtain ⟨nearer, folder, farther, rfl, passes, settles⟩ := ends
  induction nearer with
  | nil => exact settles.searchIn_cons farther
  | cons other nearer ih =>
      rw [List.forall_mem_cons] at passes
      rw [List.cons_append, passes.1.searchIn_cons]
      exact ih passes.2

theorem searchIn_of_passes {folders : List Address}
    (passes : ∀ folder ∈ folders, Passes store reader folder) :
    (searchIn store reader folders).outcome = .ok none := by
  induction folders with
  | nil => rfl
  | cons folder folders ih =>
      rw [List.forall_mem_cons] at passes
      rw [passes.1.searchIn_cons]
      exact ih passes.2

variable (store reader) in
/-- A search ends in a folder, or it passes all of them. -/
theorem ends_or_passes (folders : List Address) :
    (∃ ending, Ends store reader folders ending) ∨
      ∀ folder ∈ folders, Passes store reader folder := by
  induction folders with
  | nil => exact .inr (List.forall_mem_nil _)
  | cons folder folders ih =>
      rcases passes_or_settles store reader folder with passes | ⟨ending, settles⟩
      · rcases ih with ⟨ending, nearer, last, farther, rfl, passed, settles⟩ | passed
        · refine .inl ⟨ending, folder :: nearer, last, farther, rfl, ?_, settles⟩
          exact List.forall_mem_cons.mpr ⟨passes, passed⟩
        · exact .inr (List.forall_mem_cons.mpr ⟨passes, passed⟩)
      · exact .inl ⟨ending, [], folder, folders, rfl, List.forall_mem_nil _, settles⟩

/-- A search has the outcome of an ending exactly if it ends so. -/
theorem searchIn_outcome_eq_map_iff {folders : List Address} (ending : Except SearchError Path) :
    (searchIn store reader folders).outcome = ending.map some ↔
      Ends store reader folders ending := by
  refine ⟨fun outcome_eq => ?_, Ends.searchIn_outcome⟩
  rcases ends_or_passes store reader folders with ⟨other, ends⟩ | passes
  · rw [ends.searchIn_outcome] at outcome_eq
    cases other <;> cases ending <;> cases outcome_eq <;> exact ends
  · rw [searchIn_of_passes passes] at outcome_eq
    cases ending <;> cases outcome_eq

theorem searchIn_outcome_eq_none_iff {folders : List Address} :
    (searchIn store reader folders).outcome = .ok none ↔
      ∀ folder ∈ folders, Passes store reader folder := by
  refine ⟨fun outcome_eq => ?_, searchIn_of_passes⟩
  rcases ends_or_passes store reader folders with ⟨ending, ends⟩ | passes
  · rw [ends.searchIn_outcome] at outcome_eq
    cases ending <;> cases outcome_eq
  · exact passes

variable (store reader) in
/-- A search ends in a folder, or it passes all of them and finds nothing. -/
theorem ends_or_finds_nothing (folders : List Address) :
    (∃ ending, Ends store reader folders ending) ∨
      (searchIn store reader folders).outcome = .ok none := by
  rcases ends_or_passes store reader folders with ends | passes
  · exact .inl ends
  · exact .inr (searchIn_of_passes passes)

end Config
end Hazard
