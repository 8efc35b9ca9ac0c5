import Hazard.Analysis.Analyzer
import Hazard.Proofs.Config.Fields

/-!
# Sessions of an analyzer

Between analyses the configuration in force is changed, by mappings in either spelling.  A change is
accepted if the last value that it gives each field can be read, and then these values and no others
take effect.  So what a session comes to is what one change comes to: all that were accepted, each
laid over the ones before it.  Analyses leave the configuration as it is.
-/

namespace Hazard
namespace Config

/-! ## One change -/

theorem latest?_eq_none_iff {field : Field} {entries : Entries} :
    latest? field entries = none ↔ ∀ entry ∈ entries, field.isSpelledBy entry.1 = false := by
  rw [latest?, Option.map_eq_none_iff, List.getLast?_eq_none_iff, sayings, List.filter_eq_nil_iff]
  simp only [Bool.not_eq_true]

theorem Holds.given?_eq {entries : Entries} {values : Field → Value} (holds : Holds entries values)
    (field : Field) : given? field entries = some (values field) := by
  rw [given?, holds.found field]
  by_cases capital : field.camel = field.name
  · rw [capital, holds.found field]
    rfl
  · rw [holds.plain field capital]
    rfl

theorem Holds.overlay {base : Entries} {values : Field → Value} (holds : Holds base values)
    (changes : Entries) :
    Holds (Config.overlay base (normalizeKeys changes)) fun field =>
      (latest? field changes).getD (values field) where
  plain field capital := by
    rw [Config.overlay, Value.find?_foldl_put ((distinctKeys_normalizeKeys changes).once _),
      find?_camel_normalizeKeys capital, holds.plain field capital]
    rfl
  found field := by
    rw [Config.overlay, Value.find?_foldl_put ((distinctKeys_normalizeKeys changes).once _),
      find?_name_normalizeKeys, holds.found field]
    cases latest? field changes <;> rfl

/-- A change gives every field that it names the value that it names last, and no other. -/
theorem change_eq_ok_iff {config next : Config} {changes : Entries} :
    config.change changes = .ok next ↔
      ∀ field : Field,
        field.Yields (latest? field changes) (config.content field) (next.content field) := by
  have holds := (holds_table config.fieldValue).overlay changes
  rw [change, toEntries, ofEntries_eq_ok_iff]
  refine forall_congr' fun field => ?_
  rw [holds.given?_eq]
  cases latest? field changes with
  | some value => exact Iff.rfl
  | none =>
      rw [Option.getD_none, Field.Yields, check_fieldValue]
      exact ⟨Except.ok.inj, congrArg Except.ok⟩

/-- What is written of a configuration is read as the configuration. -/
theorem ofEntries_toEntries (config : Config) : ofEntries config.toEntries = .ok config := by
  apply ofEntries_eq_ok_iff.mpr
  intro field
  rw [toEntries, (holds_table config.fieldValue).given?_eq]
  exact check_fieldValue config field

theorem change_nil (config : Config) : config.change [] = .ok config :=
  change_eq_ok_iff.mpr fun _ => rfl

/-! ## Changes after changes -/

/-- The keys are different, and none is spelled with capital letters. -/
structure Canonical (entries : Entries) : Prop where
  keys : Value.DistinctKeys entries
  plain : ∀ field : Field, field.camel ≠ field.name → Value.find? (.str field.camel) entries = none

theorem canonical_nil : Canonical [] := ⟨List.Pairwise.nil, fun _ _ => rfl⟩

theorem canonical_normalizeKeys (entries : Entries) : Canonical (normalizeKeys entries) :=
  ⟨distinctKeys_normalizeKeys entries, fun _ capital => find?_camel_normalizeKeys capital entries⟩

theorem Canonical.overlay {known : Entries} (canonical : Canonical known) (changes : Entries) :
    Canonical (Config.overlay known (normalizeKeys changes)) where
  keys := Value.distinctKeys_foldl_put canonical.keys _
  plain field capital := by
    rw [Config.overlay, Value.find?_foldl_put ((distinctKeys_normalizeKeys changes).once _),
      find?_camel_normalizeKeys capital, canonical.plain field capital]
    rfl

theorem Canonical.latest?_eq {entries : Entries} (canonical : Canonical entries) (field : Field) :
    latest? field entries = Value.find? (.str field.name) entries := by
  have notTwice (capital plain : Value) : ¬ CapitalFirst field entries capital plain := by
    intro twice
    have distinct : Value.DistinctKeys (sayings field entries) := canonical.keys.filter _
    have found : Value.find? (.str field.camel) entries = some capital := by
      rw [← find?_sayings ((field.isSpelledBy_iff _).mpr (.inl rfl)), twice, Value.find?_cons,
        if_pos (Scalar.sameKey_refl _)]
    by_cases capitals : field.camel = field.name
    · rw [twice, capitals] at distinct
      have apart := (List.pairwise_cons.mp distinct).1 _ List.mem_cons_self
      exact absurd ((Scalar.sameKey_refl _).symm.trans apart) Bool.true_eq_false.mp
    · rw [canonical.plain field capitals] at found
      exact absurd found.symm (Option.some_ne_none _)
  rw [← given?_eq_latest? canonical.keys notTwice, given?]
  by_cases capitals : field.camel = field.name
  · rw [capitals, Option.or_self]
  · rw [canonical.plain field capitals, Option.none_or]

theorem Canonical.latest?_overlay {known : Entries} (canonical : Canonical known)
    (changes : Entries) (field : Field) :
    latest? field (Config.overlay known (normalizeKeys changes)) =
      (latest? field changes).or (latest? field known) := by
  rw [(canonical.overlay changes).latest?_eq, canonical.latest?_eq, Config.overlay,
    Value.find?_foldl_put ((distinctKeys_normalizeKeys changes).once _), find?_name_normalizeKeys]

theorem Field.Yields.trans {field : Field} {first second : Option Value} {a b c : field.Content}
    (before : field.Yields first a b) (after : field.Yields second b c) :
    field.Yields (second.or first) a c := by
  cases second with
  | some value => exact after
  | none =>
      obtain rfl : b = c := after
      exact before

/-- Two changes in a row come to one, the second laid over the first. -/
theorem change_overlay {config middle last : Config} {known changes : Entries}
    (canonical : Canonical known) (first : config.change known = .ok middle)
    (second : middle.change changes = .ok last) :
    config.change (overlay known (normalizeKeys changes)) = .ok last := by
  rw [change_eq_ok_iff] at first second ⊢
  intro field
  rw [canonical.latest?_overlay]
  exact (first field).trans (second field)

theorem latest?_normalizeKeys (field : Field) (entries : Entries) :
    latest? field (normalizeKeys entries) = latest? field entries := by
  rw [(canonical_normalizeKeys entries).latest?_eq, find?_name_normalizeKeys]

theorem change_normalizeKeys_eq_ok_iff {config next : Config} {changes : Entries} :
    config.change (normalizeKeys changes) = .ok next ↔ config.change changes = .ok next := by
  rw [change_eq_ok_iff, change_eq_ok_iff]
  simp only [latest?_normalizeKeys]

/-- Mappings laid over each other, the last one uppermost. -/
def layers (changes : List Entries) : Entries :=
  changes.foldl (fun known upper => overlay known (normalizeKeys upper)) []

end Config

namespace Analyzer

/-! ## Calls -/

/-- What an analyzer is asked to do. -/
inductive Call where
  | update (changes : Entries)
  | analyzeFile (options : AnalysisOptions) (document : Document)
  | analyzeFiles (options : AnalysisOptions) (documents : List Document)

/-- The analyzer after a call; a change that is refused leaves it as it was. -/
def perform (analyzer : Analyzer) : Call → Analyzer
  | .update changes => (analyzer.updateConfig changes).toOption.getD analyzer
  | .analyzeFile options document => (analyzer.analyzeFile options document).1
  | .analyzeFiles options documents => (analyzer.analyzeFiles options documents).1

/-- The analyzer after several calls. -/
def session (analyzer : Analyzer) (calls : List Call) : Analyzer := calls.foldl perform analyzer

/-- The changes that the calls of a session make, without those that are refused. -/
def accepted (analyzer : Analyzer) : List Call → List Entries
  | [] => []
  | .update changes :: calls =>
    (if (analyzer.updateConfig changes).isOk then [changes] else []) ++
      (analyzer.perform (.update changes)).accepted calls
  | call :: calls => (analyzer.perform call).accepted calls

theorem analyzeFile_config (analyzer : Analyzer) (options : AnalysisOptions) (document : Document) :
    (analyzer.analyzeFile options document).1.config = analyzer.config := by
  rw [analyzeFile]
  split
  · rfl
  · split
    · rfl
    · rfl
    · rw [examine]
      split <;> rfl

theorem analyzeFiles_config (analyzer : Analyzer) (options : AnalysisOptions)
    (documents : List Document) :
    (analyzer.analyzeFiles options documents).1.config = analyzer.config := by
  induction documents generalizing analyzer with
  | nil => rfl
  | cons document documents ih =>
      rw [analyzeFiles]
      exact (ih _).trans (analyzer.analyzeFile_config options document)

theorem updateConfig_eq_ok_iff {analyzer after : Analyzer} {changes : Entries} :
    analyzer.updateConfig changes = .ok after ↔
      analyzer.config.change changes = .ok after.config ∧ after.stations = analyzer.stations := by
  rw [updateConfig]
  cases analyzer.config.change changes with
  | error issues => simp [Except.map]
  | ok config =>
      constructor
      · intro updated
        obtain rfl := Except.ok.inj updated
        exact ⟨rfl, rfl⟩
      · rintro ⟨changed, stations⟩
        obtain rfl := Except.ok.inj changed
        rw [← stations]
        rfl

theorem perform_update {analyzer after : Analyzer} {changes : Entries}
    (updated : analyzer.updateConfig changes = .ok after) :
    analyzer.perform (.update changes) = after := by
  rw [perform, updated]
  rfl

theorem perform_update_of_refused {analyzer : Analyzer} {changes : Entries} {issues : List Issue}
    (refused : analyzer.updateConfig changes = .error issues) :
    analyzer.perform (.update changes) = analyzer := by
  rw [perform, refused]
  rfl

/-- A session leaves the configuration that one change makes: the changes accepted so far, and those of the
session over them. -/
theorem change_of_session {start : Config} {known : Entries} (canonical : Config.Canonical known)
    {analyzer : Analyzer} (reached : start.change known = .ok analyzer.config) (calls : List Call) :
    start.change ((analyzer.accepted calls).foldl
      (fun known upper => Config.overlay known (Config.normalizeKeys upper)) known) =
        .ok (analyzer.session calls).config := by
  induction calls generalizing analyzer known with
  | nil => exact reached
  | cons call calls ih =>
      cases call with
      | update changes =>
          rw [accepted, session, List.foldl_cons]
          cases updated : analyzer.updateConfig changes with
          | error issues =>
              rw [perform_update_of_refused updated]
              exact ih canonical reached
          | ok after =>
              obtain ⟨changed, -⟩ := updateConfig_eq_ok_iff.mp updated
              rw [perform_update updated]
              exact ih (canonical.overlay changes) (Config.change_overlay canonical reached changed)
      | analyzeFile options document =>
          apply ih canonical
          rw [reached, perform, analyzeFile_config]
      | analyzeFiles options documents =>
          apply ih canonical
          rw [reached, perform, analyzeFiles_config]

/-- How updates act on an analyzer. -/
structure UpdatesSoundly (analyzer : Analyzer) : Prop where
  /-- A change that is refused changes nothing. -/
  refused : ∀ changes issues, analyzer.updateConfig changes = .error issues →
    analyzer.perform (.update changes) = analyzer
  /-- An accepted change takes effect. -/
  accepted : ∀ changes after, analyzer.updateConfig changes = .ok after →
    analyzer.perform (.update changes) = after ∧ after.stations = analyzer.stations
  /-- A field that a change names, in either spelling, has the value that it names last. -/
  named : ∀ changes after, analyzer.updateConfig changes = .ok after →
    ∀ (field : Config.Field) (value : Value), Config.latest? field changes = some value →
      field.check value = .ok (after.config.content field)
  /-- A field that a change does not name is as it was. -/
  unnamed : ∀ changes after, analyzer.updateConfig changes = .ok after →
    ∀ field : Config.Field, (∀ entry ∈ changes, field.isSpelledBy entry.1 = false) →
      after.config.content field = analyzer.config.content field
  /-- What is written of the configuration is read as the configuration. -/
  written : Config.ofEntries analyzer.config.toEntries = .ok analyzer.config
  /-- A change of nothing is accepted and changes nothing. -/
  idle : analyzer.updateConfig [] = .ok analyzer
  /-- Two accepted changes come to one. -/
  joined : ∀ first second middle last, analyzer.updateConfig first = .ok middle →
    middle.updateConfig second = .ok last →
      analyzer.updateConfig
        (Config.overlay (Config.normalizeKeys first) (Config.normalizeKeys second)) = .ok last
  /-- Analyses do not change the configuration, whatever they say about their own. -/
  analyzed : ∀ options document,
    (analyzer.perform (.analyzeFile options document)).config = analyzer.config
  analyzedAll : ∀ options documents,
    (analyzer.perform (.analyzeFiles options documents)).config = analyzer.config

theorem updatesSoundly (analyzer : Analyzer) : analyzer.UpdatesSoundly where
  refused _ _ := perform_update_of_refused
  accepted changes after updated := ⟨perform_update updated, (updateConfig_eq_ok_iff.mp updated).2⟩
  named changes after updated field value named := by
    have yields := Config.change_eq_ok_iff.mp (updateConfig_eq_ok_iff.mp updated).1 field
    rwa [named] at yields
  unnamed changes after updated field unnamed := by
    have yields := Config.change_eq_ok_iff.mp (updateConfig_eq_ok_iff.mp updated).1 field
    rw [Config.latest?_eq_none_iff.mpr unnamed] at yields
    exact Eq.symm yields
  written := Config.ofEntries_toEntries analyzer.config
  idle := updateConfig_eq_ok_iff.mpr ⟨Config.change_nil analyzer.config, rfl⟩
  joined first second middle last firstUpdated secondUpdated := by
    obtain ⟨changed, stations⟩ := updateConfig_eq_ok_iff.mp firstUpdated
    obtain ⟨changed', stations'⟩ := updateConfig_eq_ok_iff.mp secondUpdated
    apply updateConfig_eq_ok_iff.mpr
    refine ⟨?_, stations'.trans stations⟩
    exact Config.change_overlay (Config.canonical_normalizeKeys first)
      (Config.change_normalizeKeys_eq_ok_iff.mpr changed) changed'
  analyzed := analyzer.analyzeFile_config
  analyzedAll := analyzer.analyzeFiles_config

/-- After any calls, updates act soundly on the analyzer, and its configuration is what one update with
all accepted changes, laid over each other, makes of the first one. -/
theorem session_updatesSoundly (start : Analyzer) (calls : List Call) :
    (start.session calls).UpdatesSoundly ∧
      start.config.change (Config.layers (start.accepted calls)) =
        .ok (start.session calls).config :=
  ⟨updatesSoundly _,
    change_of_session Config.canonical_nil (Config.change_nil start.config) calls⟩

/-- A change in one spelling, one that is refused, and one in the other spelling. -/
def mixedCalls : List Call :=
  [.update [(.str "minSeverity", .str "warning")], .update [(.str "min_severity", .str "loud")],
    .update [(.str "min_severity", .str "critical")]]

/-- Of the changes, two are accepted, and the later one is all that is left of them. -/
theorem session_mixedCalls :
    (Analyzer.ofDetectors .standard []).accepted mixedCalls =
        [[(.str "minSeverity", .str "warning")], [(.str "min_severity", .str "critical")]] ∧
      Config.change .standard [(.str "min_severity", .str "critical")] =
        .ok ((Analyzer.ofDetectors .standard []).session mixedCalls).config := by
  have changes : (Analyzer.ofDetectors .standard []).accepted mixedCalls =
      [[(.str "minSeverity", .str "warning")], [(.str "min_severity", .str "critical")]] := by
    rfl
  have changed := (session_updatesSoundly (Analyzer.ofDetectors .standard []) mixedCalls).2
  rw [changes] at changed
  exact ⟨changes, changed⟩

end Analyzer
end Hazard
