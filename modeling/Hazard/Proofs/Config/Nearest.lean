import Hazard.Proofs.Config.Search
import Hazard.Proofs.Data.Json.Loading
import Hazard.Proofs.Text.Octets

/-!
# The nearest configuration

A file with a usual name can be the configuration, and so can a manifest that holds one.  A search that
returns finds the first such file: the folders nearer to the start come first, and in one folder the
order of the names decides, in which the manifest is last.  A manifest that is malformed, or holds no
configuration, does not keep a search from what stands beside or above it.
-/

namespace Hazard
namespace Config

/-- The names to look for in a folder, the preferred one first. -/
def candidateNames : List String := fileNames ++ [manifestName]

/-- The folder so many levels above another one. -/
def folderAbove (start : Address) (level : Nat) : Address := start.take (start.length - level)

/-- The content of a manifest is a mapping with the key of the configuration. -/
def HoldsConfig (reader : ManifestReader) (octets : List UInt8) : Prop :=
  ∃ entries, reader octets = .value (.map entries) ∧
    (Value.find? (.str manifestKey) entries).isSome

/-- The content of a manifest is of no use: it is malformed, is no mapping or lacks the key. -/
inductive Unusable (reader : ManifestReader) (octets : List UInt8) : Prop
  | malformed (refused : reader octets = .malformed)
  | noMapping {value : Value} (parsed : reader octets = .value value)
      (other : ∀ entries, value ≠ .map entries)
  | keyless {entries : List (Scalar × Value)} (parsed : reader octets = .value (.map entries))
      (absent : Value.find? (.str manifestKey) entries = none)

/-- The file of the name at a position, so many levels above the start, can be the configuration. -/
structure Candidate (store : Store) (reader : ManifestReader) (start : Address)
    (level position : Nat) (name : String) : Prop where
  /-- There are so many levels. -/
  within : level ≤ start.length
  /-- The name is the one at the position. -/
  listed : candidateNames[position]? = some name
  /-- The file is there; if it is the manifest, it holds a configuration. -/
  present : ∃ octets, store.item? (folderAbove start level ++ [name]) = some (.file octets) ∧
    (name = manifestName → HoldsConfig reader octets)

/-- Of all files that can be the configuration, this is the first. -/
structure IsNearest (store : Store) (reader : ManifestReader) (start : Address)
    (level position : Nat) (name : String) : Prop where
  /-- The file can be the configuration. -/
  candidate : Candidate store reader start level position name
  /-- Any other one is at a higher level, or at the same level and not before it. -/
  first : ∀ level' position' name', Candidate store reader start level' position' name' →
    level < level' ∨ level = level' ∧ position ≤ position'

/-! ## Manifests -/

theorem ofContent_eq_speaks_iff {reader : ManifestReader} {octets : List UInt8} :
    Manifest.ofContent (reader octets) = .speaks ↔ HoldsConfig reader octets := by
  constructor
  · intro speaks
    rw [Manifest.ofContent.eq_def] at speaks
    split at speaks
    · rename_i value content_eq
      split at speaks
      · rename_i held
        cases value with
        | scalar | list => contradiction
        | map entries => exact ⟨entries, content_eq, held⟩
      · contradiction
    · contradiction
    · contradiction
  · rintro ⟨entries, content_eq, held⟩
    rw [content_eq, Manifest.ofContent]
    exact if_pos held

/-- A manifest of no use is silent or malformed. -/
theorem Unusable.ofContent_eq {reader : ManifestReader} {octets : List UInt8}
    (unusable : Unusable reader octets) :
    Manifest.ofContent (reader octets) = .silent ∨
      Manifest.ofContent (reader octets) = .malformed := by
  cases unusable with
  | malformed refused =>
      rw [refused]
      exact .inr rfl
  | @noMapping value parsed other =>
      rw [parsed]
      cases value with
      | scalar | list => exact .inl rfl
      | map entries => exact absurd rfl (other entries)
  | @keyless entries parsed absent =>
      have silent : ((Value.map entries).field? manifestKey).isSome = false := by
        rw [Value.field?, absent]
        rfl
      rw [parsed, Manifest.ofContent, silent]
      exact .inl rfl

/-- A manifest that is silent or malformed is of no use. -/
theorem unusable_of_ofContent {reader : ManifestReader} {octets : List UInt8}
    (quiet : Manifest.ofContent (reader octets) = .silent ∨
      Manifest.ofContent (reader octets) = .malformed) : Unusable reader octets := by
  cases content_eq : reader octets with
  | malformed => exact .malformed content_eq
  | unreadable fault =>
      rw [content_eq] at quiet
      rcases quiet with quiet | quiet <;> contradiction
  | value value =>
      cases value with
      | scalar | list => exact .noMapping content_eq (by simp)
      | map entries =>
          refine .keyless content_eq ?_
          cases found : Value.find? (.str manifestKey) entries with
          | none => rfl
          | some held =>
              have speaks := ofContent_eq_speaks_iff.mpr ⟨entries, content_eq, by rw [found]; rfl⟩
              rw [speaks] at quiet
              rcases quiet with quiet | quiet <;> contradiction

section

variable {store : Store} {reader : ManifestReader} {folder : Address} {octets : List UInt8}

theorem manifestOf_eq (there : store.item? (folder ++ [manifestName]) = some (.file octets)) :
    manifestOf store folder reader = .ofContent (reader octets) := by
  rw [manifestOf, there]

theorem manifestOf_eq_speaks_iff :
    manifestOf store folder reader = .speaks ↔
      ∃ octets, store.item? (folder ++ [manifestName]) = some (.file octets) ∧
        HoldsConfig reader octets := by
  rw [manifestOf]
  split
  · rename_i octets there
    rw [ofContent_eq_speaks_iff]
    constructor
    · intro holds
      exact ⟨octets, there, holds⟩
    · rintro ⟨others, there', holds⟩
      rw [there] at there'
      rwa [← Item.file.inj (Option.some.inj there')] at holds
  · rename_i missing
    constructor
    · intro speaks
      contradiction
    · rintro ⟨octets, there, -⟩
      exact absurd there (missing octets)

/-- A manifest that makes a search fail is there and cannot be read. -/
theorem exists_of_manifestOf_unreadable {fault : SearchError}
    (unreadable : manifestOf store folder reader = .unreadable fault) :
    ∃ octets, store.item? (folder ++ [manifestName]) = some (.file octets) ∧
      reader octets = .unreadable fault := by
  rw [manifestOf] at unreadable
  split at unreadable
  · rename_i octets there
    refine ⟨octets, there, ?_⟩
    cases content_eq : reader octets with
    | value value =>
        rw [content_eq, Manifest.ofContent] at unreadable
        split at unreadable <;> contradiction
    | malformed =>
        rw [content_eq] at unreadable
        contradiction
    | unreadable other =>
        rw [content_eq] at unreadable
        obtain rfl := Manifest.unreadable.inj unreadable
        rfl
  · contradiction

/-- A manifest of no use, or none at all, is silent or malformed. -/
theorem manifestOf_of_unusable
    (unusable : ∀ octets, store.item? (folder ++ [manifestName]) = some (.file octets) →
      Unusable reader octets) :
    manifestOf store folder reader = .silent ∨ manifestOf store folder reader = .malformed := by
  rw [manifestOf]
  split
  · rename_i octets there
    exact (unusable octets there).ofContent_eq
  · exact .inl rfl

end

theorem hasFileAt_iff {store : Store} {folder : Address} {name : String} :
    hasFileAt store folder name = true ↔
      ∃ octets, store.item? (folder ++ [name]) = some (.file octets) := by
  rw [hasFileAt]
  split
  · rename_i octets there
    exact iff_of_true rfl ⟨octets, there⟩
  · rename_i missing
    refine iff_of_false Bool.false_ne_true ?_
    rintro ⟨octets, there⟩
    exact missing octets there

/-! ## One folder -/

section

variable {store : Store} {reader : ManifestReader} {start : Address} {level position : Nat}
  {name : String}

theorem manifestName_not_mem : manifestName ∉ fileNames := by decide

/-- A candidate is a file with a usual name or a manifest that holds a configuration. -/
theorem Candidate.usual_or_manifest (candidate : Candidate store reader start level position name) :
    (fileNames[position]? = some name ∧ hasFileAt store (folderAbove start level) name = true) ∨
      (position = fileNames.length ∧ name = manifestName ∧
        manifestOf store (folderAbove start level) reader = .speaks) := by
  obtain ⟨octets, there, holds⟩ := candidate.present
  have listed := candidate.listed
  rw [candidateNames, List.getElem?_append] at listed
  split at listed
  · exact .inl ⟨listed, hasFileAt_iff.mpr ⟨octets, there⟩⟩
  · rename_i beyond
    rw [List.getElem?_singleton] at listed
    split at listed
    · obtain rfl := Option.some.inj listed
      exact .inr ⟨by omega, rfl, manifestOf_eq_speaks_iff.mpr ⟨octets, there, holds rfl⟩⟩
    · contradiction

theorem Passes.not_candidate (passes : Passes store reader (folderAbove start level)) :
    ¬ Candidate store reader start level position name := by
  intro candidate
  rcases candidate.usual_or_manifest with ⟨listed, present⟩ | ⟨-, -, speaks⟩
  · rw [passes.nameless name (List.mem_of_getElem? listed)] at present
    contradiction
  · rcases passes.quiet with quiet | quiet <;>
      rw [quiet] at speaks <;> contradiction

/-- A folder that settles a search with a file has a candidate, which comes first in it. -/
theorem Settles.exists_candidate {path : Path}
    (settles : Settles store reader (folderAbove start level) (.ok path)) (within : level ≤ start.length) :
    ∃ position name, Candidate store reader start level position name ∧
      path = store.pathOf (folderAbove start level ++ [name]) ∧
      ∀ position' name', Candidate store reader start level position' name' → position ≤ position' := by
  cases settles with
  | @file earlier later name names present preferred =>
      have usual : name ∈ fileNames := by simp [names]
      have listed : candidateNames[earlier.length]? = some name := by simp [candidateNames, names]
      obtain ⟨octets, there⟩ := hasFileAt_iff.mp present
      refine ⟨earlier.length, name, ⟨within, listed, octets, there, fun same => ?_⟩, rfl, ?_⟩
      · exact absurd (same ▸ usual) manifestName_not_mem
      · intro position' name' other
        rcases other.usual_or_manifest with ⟨listed', present'⟩ | ⟨last, -, -⟩
        · refine Nat.le_of_not_lt fun before => ?_
          rw [names, List.getElem?_append_left before] at listed'
          rw [preferred name' (List.mem_of_getElem? listed')] at present'
          contradiction
        · rw [last, names, List.length_append]
          exact Nat.le_add_right _ _
  | manifest nameless speaks =>
      obtain ⟨octets, there, holds⟩ := manifestOf_eq_speaks_iff.mp speaks
      refine ⟨fileNames.length, manifestName, ⟨within, rfl, octets, there, fun _ => holds⟩, rfl, ?_⟩
      intro position' name' other
      rcases other.usual_or_manifest with ⟨listed', present'⟩ | ⟨last, -, -⟩
      · rw [nameless name' (List.mem_of_getElem? listed')] at present'
        contradiction
      · exact Nat.le_of_eq last.symm

/-- A folder with a candidate does not make a search fail: its manifest comes last. -/
theorem Candidate.settles_ok {ending : Except SearchError Path}
    (candidate : Candidate store reader start level position name)
    (settles : Settles store reader (folderAbove start level) ending) : ∃ path, ending = .ok path := by
  have speaks (nameless : Nameless store (folderAbove start level)) :
      manifestOf store (folderAbove start level) reader = .speaks := by
    rcases candidate.usual_or_manifest with ⟨listed, present⟩ | ⟨-, -, speaks⟩
    · rw [nameless name (List.mem_of_getElem? listed)] at present
      contradiction
    · exact speaks
  cases settles with
  | file | manifest => exact ⟨_, rfl⟩
  | unreadable nameless unreadable =>
      rw [speaks nameless] at unreadable
      contradiction

/-! ## All folders from the start up -/

theorem getElem?_upward (within : level ≤ start.length) :
    (upward start)[level]? = some (folderAbove start level) := by
  rw [upward, List.getElem?_map, List.getElem?_range (Nat.lt_succ_of_le within)]
  rfl

/-- The folders before one in the way up are those at lower levels. -/
theorem of_upward_eq_append {nearer farther : List Address} {folder : Address}
    (split : upward start = nearer ++ folder :: farther) :
    nearer.length ≤ start.length ∧ folder = folderAbove start nearer.length ∧
      ∀ level < nearer.length, folderAbove start level ∈ nearer := by
  have within : nearer.length ≤ start.length := by
    have size := congrArg List.length split
    rw [upward, List.length_map, List.length_range, List.length_append, List.length_cons] at size
    omega
  refine ⟨within, ?_, fun level lower => ?_⟩
  · have here := getElem?_upward within
    rw [split, List.getElem?_append_right (Nat.le_refl _), Nat.sub_self] at here
    exact Option.some.inj here
  · have there := getElem?_upward (Nat.le_trans (Nat.le_of_lt lower) within)
    rw [split, List.getElem?_append_left lower] at there
    exact List.mem_of_getElem? there

/-- The level at which a search ends has the first candidate if the search ends with a file; the
search passes the levels below. -/
theorem Ends.isNearest {path : Path} (ends : Ends store reader (upward start) (.ok path)) :
    ∃ level position name, IsNearest store reader start level position name ∧
      path = store.pathOf (folderAbove start level ++ [name]) ∧
      ∀ level' < level, Passes store reader (folderAbove start level') := by
  obtain ⟨nearer, folder, farther, split, passes, settles⟩ := ends
  obtain ⟨within, rfl, lower⟩ := of_upward_eq_append split
  obtain ⟨position, name, candidate, path_eq, first⟩ := settles.exists_candidate within
  refine ⟨nearer.length, position, name, ⟨candidate, ?_⟩, path_eq,
    fun level' below => passes _ (lower level' below)⟩
  intro level' position' name' other
  rcases Nat.lt_trichotomy nearer.length level' with above | rfl | below
  · exact .inl above
  · exact .inr ⟨rfl, first position' name' other⟩
  · exact absurd other (passes _ (lower level' below)).not_candidate

/-- There is only one first candidate. -/
theorem IsNearest.unique {level' position' : Nat} {name' : String}
    (nearest : IsNearest store reader start level position name)
    (other : IsNearest store reader start level' position' name') :
    level = level' ∧ name = name' := by
  have before := nearest.first level' position' name' other.candidate
  have after := other.first level position name nearest.candidate
  have level_eq : level = level' := by omega
  have position_eq : position = position' := by omega
  have listed := nearest.candidate.listed
  rw [position_eq, other.candidate.listed] at listed
  exact ⟨level_eq, (Option.some.inj listed).symm⟩

theorem Candidate.folder_mem_upward (candidate : Candidate store reader start level position name) :
    folderAbove start level ∈ upward start :=
  List.mem_of_getElem? (getElem?_upward candidate.within)

/-- A search comes to a candidate, or to one before it, if no manifest at a lower level makes it
fail. -/
theorem Candidate.ends_ok (candidate : Candidate store reader start level position name)
    (unusable : ∀ level' < level, ∀ octets,
      store.item? (folderAbove start level' ++ [manifestName]) = some (.file octets) →
        Unusable reader octets) : ∃ path, Ends store reader (upward start) (.ok path) := by
  rcases ends_or_passes store reader (upward start) with ⟨ending, ends⟩ | passes
  · obtain ⟨nearer, folder, farther, split, passed, settles⟩ := ends
    obtain ⟨-, rfl, lower⟩ := of_upward_eq_append split
    suffices ∃ path, ending = .ok path by
      obtain ⟨path, rfl⟩ := this
      exact ⟨path, nearer, _, farther, split, passed, settles⟩
    rcases Nat.lt_trichotomy nearer.length level with below | rfl | above
    · have quiet := manifestOf_of_unusable (unusable _ below)
      cases settles with
      | file | manifest => exact ⟨_, rfl⟩
      | unreadable nameless unreadable =>
          rw [unreadable] at quiet
          rcases quiet with quiet | quiet <;> contradiction
    · exact candidate.settles_ok settles
    · exact absurd candidate (passed _ (lower level above)).not_candidate
  · exact absurd candidate (passes _ candidate.folder_mem_upward).not_candidate

/-- A search that fails has come to a manifest that it cannot read, and to no candidate before. -/
theorem Ends.exists_unreadable {fault : SearchError}
    (ends : Ends store reader (upward start) (.error fault)) :
    ∃ level octets, level ≤ start.length ∧
      store.item? (folderAbove start level ++ [manifestName]) = some (.file octets) ∧
      reader octets = .unreadable fault ∧
      ∀ level' position name, Candidate store reader start level' position name →
        level < level' := by
  obtain ⟨nearer, folder, farther, split, passes, settles⟩ := ends
  obtain ⟨within, rfl, lower⟩ := of_upward_eq_append split
  cases settles with
  | unreadable nameless unreadable =>
      obtain ⟨octets, there, content_eq⟩ := exists_of_manifestOf_unreadable unreadable
      refine ⟨nearer.length, octets, within, there, content_eq, fun level' position name other => ?_⟩
      rcases Nat.lt_trichotomy nearer.length level' with above | rfl | below
      · exact above
      · obtain ⟨path, impossible⟩ := other.settles_ok (.unreadable nameless unreadable)
        contradiction
      · exact absurd other (passes _ (lower level' below)).not_candidate

/-- The manifest of a folder that a search passes is of no use. -/
theorem Passes.unusable {folder : Address} {octets : List UInt8}
    (passes : Passes store reader folder)
    (there : store.item? (folder ++ [manifestName]) = some (.file octets)) :
    Unusable reader octets := by
  have quiet := passes.quiet
  rw [manifestOf_eq there] at quiet
  exact unusable_of_ofContent quiet

/-- The first candidate is found if and only if no manifest at a lower level is in the way. -/
theorem IsNearest.ends_iff (nearest : IsNearest store reader start level position name) :
    Ends store reader (upward start) (.ok (store.pathOf (folderAbove start level ++ [name]))) ↔
      ∀ level' < level, ∀ octets,
        store.item? (folderAbove start level' ++ [manifestName]) = some (.file octets) →
          Unusable reader octets := by
  constructor
  · intro ends level' below octets there
    obtain ⟨found, _, _, other, -, passes⟩ := ends.isNearest
    obtain ⟨rfl, -⟩ := nearest.unique other
    exact (passes level' below).unusable there
  · intro unusable
    obtain ⟨path, ends⟩ := nearest.candidate.ends_ok unusable
    obtain ⟨_, _, _, other, rfl, -⟩ := ends.isNearest
    obtain ⟨rfl, rfl⟩ := nearest.unique other
    exact ends

end

/-- However manifests are read, a search that returns a file returns the first candidate, by levels
above the start and then by names, and one that returns nothing has no candidate to return.  The first
candidate is found if and only if every manifest at a lower level is of no use; a search fails only
because of a manifest below all candidates that cannot be read. -/
theorem search_nearest (store : Store) (start : Path) (reader : ManifestReader) :
    (∀ path, (search store start reader).outcome = .ok (some path) →
      ∃ level position name, IsNearest store reader (store.resolve start) level position name ∧
        path = store.pathOf (folderAbove (store.resolve start) level ++ [name])) ∧
    ((search store start reader).outcome = .ok none → ∀ level position name,
      ¬ Candidate store reader (store.resolve start) level position name) ∧
    (∀ level position name, IsNearest store reader (store.resolve start) level position name →
      ((search store start reader).outcome =
          .ok (some (store.pathOf (folderAbove (store.resolve start) level ++ [name]))) ↔
        ∀ level' < level, ∀ octets,
          store.item? (folderAbove (store.resolve start) level' ++ [manifestName]) =
            some (.file octets) → Unusable reader octets)) ∧
    ∀ fault, (search store start reader).outcome = .error fault →
      ∃ level octets, level ≤ (store.resolve start).length ∧
        store.item? (folderAbove (store.resolve start) level ++ [manifestName]) =
          some (.file octets) ∧
        reader octets = .unreadable fault ∧
        ∀ level' position name,
          Candidate store reader (store.resolve start) level' position name → level < level' := by
  rw [search]
  refine ⟨fun path found => ?_, fun nothing level position name candidate => ?_,
    fun level position name nearest => ?_, fun fault failed => ?_⟩
  · have ends := (searchIn_outcome_eq_map_iff (.ok path)).mp found
    obtain ⟨level, position, name, nearest, path_eq, -⟩ := ends.isNearest
    exact ⟨level, position, name, nearest, path_eq⟩
  · have passes := searchIn_outcome_eq_none_iff.mp nothing
    exact (passes _ candidate.folder_mem_upward).not_candidate candidate
  · rw [← nearest.ends_iff]
    exact searchIn_outcome_eq_map_iff (.ok _)
  · exact ((searchIn_outcome_eq_map_iff (.error fault)).mp failed).exists_unreadable

/-- A folder with a malformed manifest, below one with two files of usual names. -/
def malformedBelow : Store :=
  ⟨"/", ["outer", "inner"], [],
    [(["outer"], .folder), (["outer", ".codegaterc"], .file []),
      (["outer", ".codegateway.yaml"], .file []), (["outer", "inner"], .folder),
      (["outer", "inner", "package.json"], .file [123])]⟩

/-- The malformed manifest does not hide the preferred file above it. -/
theorem search_nearest_malformedBelow :
    Unusable readManifest [123] ∧
      ∃ level position name,
        IsNearest malformedBelow readManifest ["outer", "inner"] level position name ∧
        malformedBelow.pathOf ["outer", ".codegateway.yaml"] =
          malformedBelow.pathOf (folderAbove ["outer", "inner"] level ++ [name]) ∧
        (search malformedBelow .here).outcome =
          .ok (some (malformedBelow.pathOf (folderAbove ["outer", "inner"] level ++ [name]))) := by
  have unusable : Unusable readManifest [123] := .malformed rfl
  obtain ⟨returned, -, found, -⟩ := search_nearest malformedBelow .here readManifest
  obtain ⟨level, position, name, nearest, path_eq⟩ :=
    returned (malformedBelow.pathOf ["outer", ".codegateway.yaml"]) rfl
  refine ⟨unusable, level, position, name, nearest, path_eq, ?_⟩
  refine (found level position name nearest).mpr fun level' below octets there => ?_
  have within : level ≤ 2 := nearest.candidate.within
  obtain rfl | rfl : level' = 0 ∨ level' = 1 := by omega
  · obtain rfl : [123] = octets := Item.file.inj (Option.some.inj there)
    exact unusable
  · have missing : none = some (Item.file octets) := there
    contradiction

/-! ## A manifest that hides a candidate -/

open Json (HasForm)

/-- A mapping that holds a number and lacks the key of the configuration. -/
def keylessValue (n : Nat) : Value := .record [("x", .int n)]

/-- The text of that mapping. -/
def keylessText (n : Nat) : List Char := Json.valueText Json.oneLine 0 (keylessValue n)

theorem hasForm_keylessValue (n : Nat) : (keylessValue n).Regular HasForm := by
  simp [keylessValue, HasForm]

theorem return_notMem_keylessText (n : Nat) : '\r' ∉ keylessText n := by
  have digits : '\r' ∉ Nat.toDigits 10 n := fun member =>
    absurd ((Numeral.isDigits_toDigits n).all _ member) (by decide)
  have nonneg : ¬ (n : Int) < 0 := by omega
  simp only [keylessText, keylessValue, Value.record, List.map_cons, List.map_nil, Json.valueText,
    Json.keyText, Json.scalar, Json.integer, Json.entriesText, nonneg, if_false]
  simpa [Json.lineStart, Json.oneLine, Json.quoted, Json.escapedChar] using digits

theorem load_keylessText {n : Nat} (overlong : Numeral.IsOverlong n) :
    Json.load (keylessText n) (some manifestRoom) =
      .error (.overlong (Nat.toDigits 10 n).length) := by
  have long : Json.overlongDigits? (.scalar (.int n)) = some (Nat.toDigits 10 n).length := by
    rw [Json.overlongDigits?, if_neg (Nat.not_lt.mpr (Numeral.isOverlong_iff.mp overlong)),
      Int.natAbs_natCast]
  have stopped : Json.obstacleAmong (some manifestRoom) .start (Json.tokensOf (keylessValue n)) =
      some (.overlong (Nat.toDigits 10 n).length) := by
    rw [keylessValue, Value.record, List.map_cons, List.map_nil, Json.tokensOf, Json.tokensOf]
    simp only [Json.obstacleAmong, List.cons_append, List.nil_append, long]
    rfl
  have loaded : Json.load (Json.valueText Json.oneLine 0 (keylessValue n) ++ []) _ = .error _ :=
    Json.load_valueText_of_obstacle (by decide) (hasForm_keylessValue n) (List.forall_mem_nil _)
      stopped
  rwa [List.append_nil] at loaded

theorem readManifest_keylessText {n : Nat} (overlong : Numeral.IsOverlong n) :
    readManifest (Text.encode (keylessText n)) =
      .unreadable (.overlong (Nat.toDigits 10 n).length) := by
  rw [readManifest, Text.decode?_encode]
  simp only [Text.uniformLineEnds_of_notMem (return_notMem_keylessText n),
    load_keylessText overlong]

/-- A folder with such a manifest, below one with a file of a usual name. -/
def keylessBelow (n : Nat) : Store :=
  ⟨"/", ["outer", "inner"], [],
    [(["outer"], .folder), (["outer", ".codegateway.yaml"], .file []), (["outer", "inner"], .folder),
      (["outer", "inner", "package.json"], .file (Text.encode (keylessText n)))]⟩

theorem search_keylessBelow {n : Nat} (overlong : Numeral.IsOverlong n) :
    (search (keylessBelow n) .here).outcome = .error (.overlong (Nat.toDigits 10 n).length) := by
  have there : (keylessBelow n).item? (["outer", "inner"] ++ [manifestName]) =
      some (.file (Text.encode (keylessText n))) := rfl
  have unreadable : manifestOf (keylessBelow n) ["outer", "inner"] readManifest =
      .unreadable (.overlong (Nat.toDigits 10 n).length) := by
    rw [manifestOf_eq there, readManifest_keylessText overlong]
    rfl
  have nameless : Nameless (keylessBelow n) ["outer", "inner"] := by
    intro name member
    simp only [fileNames, List.mem_cons, List.not_mem_nil, or_false] at member
    rcases member with rfl | rfl | rfl | rfl | rfl
    all_goals rfl
  have ends : Ends (keylessBelow n) readManifest (upward ["outer", "inner"])
      (.error (.overlong (Nat.toDigits 10 n).length)) :=
    ⟨[], ["outer", "inner"], [["outer"], []], rfl, List.forall_mem_nil _, .unreadable nameless unreadable⟩
  exact ends.searchIn_outcome

theorem parse?_keylessText (n : Nat) : Json.parse? (keylessText n) = some (keylessValue n) := by
  have parsed : Json.parse? (Json.valueText Json.oneLine 0 (keylessValue n) ++ []) = some _ :=
    Json.parse?_valueText (by decide) (hasForm_keylessValue n) (List.forall_mem_nil _)
  rwa [List.append_nil] at parsed

theorem candidate_keylessBelow (n : Nat) :
    Candidate (keylessBelow n) readManifest ["outer", "inner"] 1 1 ".codegateway.yaml" :=
  ⟨by decide, rfl, [], rfl, fun same => absurd same (by decide)⟩

/-- The least integer with too many digits. -/
def leastOverlong : Nat := Nat.pow 10 Numeral.digitLimit

theorem isOverlong_leastOverlong : Numeral.IsOverlong leastOverlong := by
  rw [Numeral.isOverlong_iff, Int.natAbs_natCast]
  unfold leastOverlong
  exact Nat.le_refl _

/-- A manifest that is JSON and lacks the key hides the file above it. -/
theorem search_hidden_keylessBelow :
    Json.parse? (keylessText leastOverlong) = some (keylessValue leastOverlong) ∧
    (keylessValue leastOverlong).field? manifestKey = none ∧
    Candidate (keylessBelow leastOverlong) readManifest ["outer", "inner"] 1 1
      ".codegateway.yaml" ∧
    (search (keylessBelow leastOverlong) .here).outcome =
      .error (.overlong (Nat.toDigits 10 leastOverlong).length) :=
  ⟨parse?_keylessText leastOverlong, rfl, candidate_keylessBelow leastOverlong,
    search_keylessBelow isOverlong_leastOverlong⟩

end Config
end Hazard
