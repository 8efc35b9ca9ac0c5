import Hazard.Config.Load
import Hazard.Proofs.Config.Search
import Mathlib.Data.List.Basic

/-!
# Errors of loading that are not told as errors of the configuration

Loading ends with a configuration, with an error that is told as one of the configuration, or with
another error.  This file says exactly when the last happens, however files are read: the file at home
or the file of the project holds something that reading does not expect, or cannot be merged, or a manifest
on the way up cannot be read.
-/

namespace Hazard
namespace Config

/-- What a file holds makes loading it fail with an error that is not told as one of the
configuration. -/
inductive FileEscapes (store : Store) (readers : Readers) (path : Path) : LoadError → Prop
  | content {octets : List UInt8} {fault : Yaml.ReadError} (read : store.read path = .ok octets)
      (failed : readers.file octets = .error fault) (wellFormed : fault ≠ .malformed) :
      FileEscapes store readers path (.content fault)
  | manifestShape {octets : List UInt8} {content : Value} (read : store.read path = .ok octets)
      (parsed : readers.file octets = .ok content) (isManifest : path.name = manifestName)
      (nonvoid : isVoid content = false) (keyless : ∀ entries, content ≠ .map entries) :
      FileEscapes store readers path (.manifestShape (shapeName content))

/-- Laying a file over others fails with an error that is not told as one of the configuration. -/
inductive LayerEscapes (store : Store) (readers : Readers) (base : Entries) (path : Path) :
    LoadError → Prop
  | file {fault : LoadError} (escapes : FileEscapes store readers path fault) :
      LayerEscapes store readers base path fault
  | merge {entries : Entries} {room : Nat} (loaded : loadFile store path readers = .ok entries)
      (bounded : readers.room = some room)
      (deep : room < mergeDepth base (normalizeKeys entries)) :
      LayerEscapes store readers base path .mergeTooDeep

/-- The path of the configuration at home. -/
def homePath (store : Store) : Path := store.pathOf (store.home ++ homeNames)

/-- Where the file of the project comes from: it is given, or a search ends with it. -/
inductive ProjectEnds (store : Store) (readers : Readers) (start : Path) :
    Option String → Except SearchError Path → Prop
  | given {text : String} (named : text ≠ "") :
      ProjectEnds store readers start (some text) (.ok (.ofString text))
  | searched {given : Option String} {ending : Except SearchError Path}
      (unnamed : given = none ∨ given = some "")
      (ends : Ends store readers.manifest (upward (store.resolve start)) ending) :
      ProjectEnds store readers start given ending

/-- Loading fails with an error that is not told as one of the configuration; what is wrong at
home comes first. -/
inductive LoadEscapes (store : Store) (readers : Readers) (start : Path) (given : Option String) :
    LoadError → Prop
  | home {fault : LoadError}
      (escapes : LayerEscapes store readers standard.toEntries (homePath store) fault) :
      LoadEscapes store readers start given fault
  | search {base : Entries} {fault : SearchError}
      (lower : (homeLayer store readers).outcome = .ok base)
      (ends : ProjectEnds store readers start given (.error fault)) :
      LoadEscapes store readers start given (.ofSearch fault)
  | project {base : Entries} {path : Path} {fault : LoadError}
      (lower : (homeLayer store readers).outcome = .ok base)
      (ends : ProjectEnds store readers start given (.ok path))
      (escapes : LayerEscapes store readers base path fault) :
      LoadEscapes store readers start given fault

/-- The outcome is a value, or an error that is told as one of the configuration. -/
def Surfaces {α : Type} : Except LoadError α → Prop
  | .ok _ => True
  | .error fault => fault.isReported = true

/-! ## One file -/

theorem hasFile_of_read {store : Store} {path : Path} {octets : List UInt8}
    (read : store.read path = .ok octets) : store.hasFile path = true := by
  rw [Store.read] at read
  rw [Store.hasFile, Store.find?]
  cases located : store.locate path with
  | error fault =>
      rw [located] at read
      exact absurd read nofun
  | ok address =>
      rw [located] at read
      simp only [bind, Except.bind] at read
      split at read
      · rename_i found
        simp [found]
      · exact absurd read nofun
      · exact absurd read nofun

theorem ofContent_eq_content {path : Path} {fault : Yaml.ReadError}
    (wellFormed : fault ≠ .malformed) : LoadError.ofContent path fault = .content fault := by
  cases fault with
  | malformed => exact absurd rfl wellFormed
  | _ => rfl

theorem ofManifest_of_keyless {content : Value} (nonvoid : isVoid content = false)
    (keyless : ∀ entries, content ≠ .map entries) :
    ofManifest content = .error (.manifestShape (shapeName content)) := by
  rw [ofManifest, nonvoid, if_neg Bool.false_ne_true]
  exact keyless

theorem ofManifest_ok_or_keyless (content : Value) :
    (∃ held, ofManifest content = .ok held) ∨
      isVoid content = false ∧ ∀ entries, content ≠ .map entries := by
  cases void : isVoid content with
  | true => exact .inl ⟨.null, by simp [ofManifest, void]⟩
  | false =>
      cases content with
      | map entries =>
          refine .inl ⟨(Value.find? (.str manifestKey) entries).getD .null, ?_⟩
          simp [ofManifest, void]
      | scalar value => exact .inr ⟨rfl, nofun⟩
      | list items => exact .inr ⟨rfl, nofun⟩

section

variable {store : Store} {readers : Readers} {path : Path}

theorem contentOf_eq {octets : List UInt8} (read : store.read path = .ok octets) :
    contentOf store path readers = (readers.file octets).mapError (.ofContent path) := by
  rw [contentOf, read]

/-- Once it is clear what a file holds, loading it fails only in a way that is told. -/
theorem loadFile_surfaces {content held : Value}
    (content_eq : contentOf store path readers = .ok content)
    (held_eq : (if path.name == manifestName then ofManifest content else .ok content) =
      .ok held) : Surfaces (loadFile store path readers) := by
  rw [loadFile, content_eq]
  by_cases isManifest : path.name == manifestName
  · rw [if_pos isManifest] at held_eq
    simp only [bind, Except.bind, if_pos isManifest, held_eq]
    split
    · exact True.intro
    · exact True.intro
    · rfl
  · rw [if_neg isManifest] at held_eq
    obtain rfl := Except.ok.inj held_eq
    simp only [bind, Except.bind, if_neg isManifest]
    split
    · exact True.intro
    · exact True.intro
    · rfl

theorem FileEscapes.hasFile {fault : LoadError} (escapes : FileEscapes store readers path fault) :
    store.hasFile path = true := by
  cases escapes with
  | content read _ _ => exact hasFile_of_read read
  | manifestShape read _ _ _ _ => exact hasFile_of_read read

theorem FileEscapes.not_reported {fault : LoadError}
    (escapes : FileEscapes store readers path fault) : fault.isReported = false := by
  cases escapes <;> rfl

theorem FileEscapes.loadFile_eq {fault : LoadError}
    (escapes : FileEscapes store readers path fault) :
    loadFile store path readers = .error fault := by
  rw [loadFile]
  cases escapes with
  | @content octets fault read failed wellFormed =>
      have content_eq : contentOf store path readers = .error (.content fault) := by
        rw [contentOf_eq read, failed, ← ofContent_eq_content wellFormed]
        rfl
      rw [content_eq]
      rfl
  | @manifestShape octets value read parsed isManifest nonvoid keyless =>
      have shape_eq := ofManifest_of_keyless nonvoid keyless
      have content_eq : contentOf store path readers = .ok value := by
        rw [contentOf_eq read, parsed]
        rfl
      rw [content_eq]
      simp only [bind, Except.bind, isManifest, beq_self_eq_true, if_true, shape_eq]

variable (store readers path) in
/-- A file is loaded, or fails with an error that is told, unless it escapes. -/
theorem loadFile_surfaces_or_escapes :
    Surfaces (loadFile store path readers) ∨ ∃ fault, FileEscapes store readers path fault := by
  cases read : store.read path with
  | error cause =>
      left
      rw [loadFile, contentOf, read]
      rfl
  | ok octets =>
      cases parsed : readers.file octets with
      | error fault =>
          by_cases malformed : fault = .malformed
          · subst malformed
            left
            rw [loadFile, contentOf_eq read, parsed]
            rfl
          · exact .inr ⟨_, .content read parsed malformed⟩
      | ok content =>
          have content_eq : contentOf store path readers = .ok content := by
            rw [contentOf_eq read, parsed]
            rfl
          by_cases isManifest : path.name = manifestName
          · rcases ofManifest_ok_or_keyless content with ⟨held, held_eq⟩ | ⟨nonvoid, keyless⟩
            · exact .inl (loadFile_surfaces content_eq (by simpa [isManifest] using held_eq))
            · exact .inr ⟨_, .manifestShape read parsed isManifest nonvoid keyless⟩
          · have held_eq : (if path.name == manifestName then ofManifest content
                else .ok content) = .ok content := by simp [isManifest]
            exact .inl (loadFile_surfaces content_eq held_eq)

/-! ## One layer -/

theorem hasFile_of_loadFile {entries : Entries} (loaded : loadFile store path readers = .ok entries) :
    store.hasFile path = true := by
  cases read : store.read path with
  | ok octets => exact hasFile_of_read read
  | error cause =>
      rw [loadFile, contentOf, read] at loaded
      contradiction

variable {base : Entries}

theorem layFile_eq {entries : Entries} (loaded : loadFile store path readers = .ok entries) :
    layFile store base path readers =
      match mergeWithin? readers.room base (normalizeKeys entries) with
      | some merged => .ok merged
      | none => .error .mergeTooDeep := by
  rw [layFile, loaded]
  rfl

theorem LayerEscapes.hasFile {fault : LoadError}
    (escapes : LayerEscapes store readers base path fault) : store.hasFile path = true := by
  cases escapes with
  | file escapes => exact escapes.hasFile
  | merge loaded _ _ => exact hasFile_of_loadFile loaded

theorem LayerEscapes.not_reported {fault : LoadError}
    (escapes : LayerEscapes store readers base path fault) : fault.isReported = false := by
  cases escapes with
  | file escapes => exact escapes.not_reported
  | merge _ _ _ => rfl

theorem LayerEscapes.layFile_eq {fault : LoadError}
    (escapes : LayerEscapes store readers base path fault) :
    layFile store base path readers = .error fault := by
  cases escapes with
  | file escapes =>
      rw [layFile, escapes.loadFile_eq]
      rfl
  | merge loaded bounded deep =>
      rw [Config.layFile_eq loaded, mergeWithin?, bounded, Option.any_some, decide_eq_true deep]
      rfl

variable (store readers base path) in
/-- A file is laid over others, or fails with an error that is told, unless it escapes. -/
theorem layFile_surfaces_or_escapes :
    Surfaces (layFile store base path readers) ∨
      ∃ fault, LayerEscapes store readers base path fault := by
  rcases loadFile_surfaces_or_escapes store readers path with surfaces | ⟨fault, escapes⟩
  · cases loaded : loadFile store path readers with
    | error fault =>
        left
        rw [loaded] at surfaces
        rw [layFile, loaded]
        exact surfaces
    | ok entries =>
        rw [layFile_eq loaded, mergeWithin?]
        cases bounded : readers.room with
        | none => exact .inl True.intro
        | some room =>
            by_cases deep : room < mergeDepth base (normalizeKeys entries)
            · exact .inr ⟨_, .merge loaded bounded deep⟩
            · left
              rw [Option.any_some, decide_eq_false deep]
              exact True.intro
  · exact .inr ⟨fault, .file escapes⟩

end

/-! ## All layers -/

section

variable {store : Store} {readers : Readers}

theorem homeLayer_of_escapes {fault : LoadError}
    (escapes : LayerEscapes store readers standard.toEntries (homePath store) fault) :
    (homeLayer store readers).outcome = .error fault := by
  have present := escapes.hasFile
  have laid := escapes.layFile_eq
  rw [homePath] at present laid
  simp [homeLayer, present, laid, escapes.not_reported, Noted.plain]

/-- The layer at home is there unless the file at home escapes. -/
theorem homeLayer_of_quiet
    (quiet : ∀ fault, ¬ LayerEscapes store readers standard.toEntries (homePath store) fault) :
    ∃ base, (homeLayer store readers).outcome = .ok base := by
  have surfaces : Surfaces (layFile store standard.toEntries (homePath store) readers) := by
    rcases layFile_surfaces_or_escapes store readers (homePath store) standard.toEntries with
      surfaces | ⟨fault, escapes⟩
    · exact surfaces
    · exact absurd escapes (quiet fault)
  rw [homePath] at surfaces
  rw [homeLayer]
  split
  · cases laid : layFile store standard.toEntries (store.pathOf (store.home ++ homeNames))
        readers with
    | ok entries => exact ⟨entries, rfl⟩
    | error fault =>
        rw [laid] at surfaces
        have reported : fault.isReported = true := surfaces
        simp only [if_pos reported]
        exact ⟨standard.toEntries, rfl⟩
  · exact ⟨_, rfl⟩

theorem resolve_surfaces (entries : Entries) : Surfaces (resolve entries) := by
  unfold resolve
  split
  · exact True.intro
  · exact (rfl : (LoadError.invalid _).isReported = true)

variable {start : Path} {given : Option String}

theorem ProjectEnds.projectFile_outcome {ending : Except SearchError Path}
    (ends : ProjectEnds store readers start given ending) :
    (projectFile store start given readers).outcome = ending.map some := by
  cases ends with
  | given named =>
      rw [projectFile, if_neg (by simpa using named)]
      rfl
  | searched unnamed ends =>
      rcases unnamed with rfl | rfl
      · exact ends.searchIn_outcome
      · exact ends.searchIn_outcome

variable (store readers start given) in
theorem projectEnds_or_none :
    (∃ ending, ProjectEnds store readers start given ending) ∨
      (projectFile store start given readers).outcome = .ok none := by
  by_cases unnamed : given = none ∨ given = some ""
  · have searched : projectFile store start given readers = search store start readers.manifest := by
      rcases unnamed with rfl | rfl <;> rfl
    rw [searched]
    rcases ends_or_finds_nothing store readers.manifest (upward (store.resolve start)) with
      ⟨ending, ends⟩ | nothing
    · exact .inl ⟨ending, .searched unnamed ends⟩
    · exact .inr nothing
  · obtain ⟨text, rfl⟩ := Option.ne_none_iff_exists'.mp fun absent => unnamed (.inl absent)
    exact .inl ⟨_, .given fun empty => unnamed (.inr (congrArg some empty))⟩

/-- An escape is the outcome of loading. -/
theorem LoadEscapes.load_outcome {fault : LoadError}
    (escapes : LoadEscapes store readers start given fault) :
    (load store start given readers).outcome = .error fault := by
  rw [load]
  cases escapes with
  | home escapes => simp only [homeLayer_of_escapes escapes]
  | search lower ends =>
      simp only [lower, projectLayer, ends.projectFile_outcome]
      rfl
  | project lower ends escapes =>
      simp only [lower, projectLayer, ends.projectFile_outcome, Except.map, escapes.layFile_eq]
      rfl

theorem LoadEscapes.not_reported {fault : LoadError}
    (escapes : LoadEscapes store readers start given fault) : fault.isReported = false := by
  cases escapes with
  | home escapes => exact escapes.not_reported
  | @search _ fault _ _ => cases fault <;> rfl
  | project _ _ escapes => exact escapes.not_reported

variable (store readers start given) in
/-- Loading ends with a configuration or an error that is told, unless it escapes. -/
theorem load_surfaces_or_escapes :
    Surfaces (load store start given readers).outcome ∨
      ∃ fault, LoadEscapes store readers start given fault := by
  by_cases atHome : ∃ fault, LayerEscapes store readers standard.toEntries (homePath store) fault
  · obtain ⟨fault, escapes⟩ := atHome
    exact .inr ⟨fault, .home escapes⟩
  · obtain ⟨base, lower⟩ := homeLayer_of_quiet (not_exists.mp atHome)
    rcases projectEnds_or_none store readers start given with ⟨fault | path, ends⟩ | nothing
    · exact .inr ⟨_, .search lower ends⟩
    · rcases layFile_surfaces_or_escapes store readers path base with surfaces | ⟨fault, escapes⟩
      · left
        simp only [load, lower, projectLayer, ends.projectFile_outcome, Except.map]
        cases onTop : layFile store base path readers with
        | ok entries => exact resolve_surfaces entries
        | error fault =>
            rw [onTop] at surfaces
            exact surfaces
      · exact .inr ⟨fault, .project lower ends escapes⟩
    · left
      simp only [load, lower, projectLayer, nothing]
      exact resolve_surfaces base

end

/-- However files are read, loading ends with a configuration or with an error that is told as one of
the configuration, except when it escapes; then the escape is its outcome. -/
theorem load_surfaces_iff (store : Store) (start : Path) (given : Option String)
    (readers : Readers) :
    (Surfaces (load store start given readers).outcome ↔
        ∀ fault, ¬ LoadEscapes store readers start given fault) ∧
      ∀ fault, LoadEscapes store readers start given fault →
        (load store start given readers).outcome = .error fault := by
  refine ⟨⟨fun surfaces fault escapes => ?_, fun quiet => ?_⟩,
    fun fault escapes => escapes.load_outcome⟩
  · rw [escapes.load_outcome] at surfaces
    have reported : fault.isReported = true := surfaces
    exact absurd reported (by simp [escapes.not_reported])
  · rcases load_surfaces_or_escapes store readers start given with surfaces | ⟨fault, escapes⟩
    · exact surfaces
    · exact absurd escapes (quiet fault)

/-- A project whose configuration is no text. -/
def undecodableProject : Store :=
  ⟨"/", ["work"], ["home"], [(["work"], .folder), (["work", "codegateway.yaml"],
    .file (Text.encode "min_severity: ".toList ++ [0xff, 0xfe]))]⟩

/-- Octets that are no text end loading with an error that is not told as one of the
configuration. -/
theorem not_surfaces_undecodable :
    (load undecodableProject .here none).outcome = .error (.content .undecodable) ∧
      ¬ Surfaces (load undecodableProject .here none).outcome := by
  have lower : (homeLayer undecodableProject).outcome = .ok standard.toEntries := by
    have missing : undecodableProject.hasFile
        (undecodableProject.pathOf (undecodableProject.home ++ homeNames)) = false := by
      decide +kernel
    rw [homeLayer, missing]
    rfl
  have settles : Settles undecodableProject readManifest ["work"]
      (.ok (undecodableProject.pathOf ["work", "codegateway.yaml"])) :=
    .file (List.nil_append fileNames).symm (by decide +kernel) nofun
  have ends : ProjectEnds undecodableProject .usual .here none
      (.ok (undecodableProject.pathOf ["work", "codegateway.yaml"])) :=
    .searched (.inl rfl) ⟨[], ["work"], [[]], by decide +kernel, nofun, settles⟩
  have read : undecodableProject.read (undecodableProject.pathOf ["work", "codegateway.yaml"]) =
      .ok (Text.encode "min_severity: ".toList ++ [0xff, 0xfe]) := by decide +kernel
  have noText : Text.decode? (Text.encode "min_severity: ".toList ++ [0xff, 0xfe]) = none := by
    decide +kernel
  have failed : Readers.usual.file (Text.encode "min_severity: ".toList ++ [0xff, 0xfe]) =
      .error .undecodable := by
    simp only [Readers.usual, readFile, noText]
  have escapes : LoadEscapes undecodableProject .usual .here none (.content .undecodable) :=
    .project lower ends (.file (.content read failed (by decide)))
  have outcome := escapes.load_outcome
  refine ⟨outcome, fun surfaces => ?_⟩
  rw [outcome] at surfaces
  exact absurd surfaces (by decide : ¬ (LoadError.content .undecodable).isReported = true)

end Config
end Hazard
