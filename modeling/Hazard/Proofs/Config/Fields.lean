import Hazard.Proofs.Config.Layering
import Hazard.Proofs.Finding.Codec

/-!
# Fields of a configuration, one by one

Every field has contents of a type of its own, which are read off values and written as values.  A
mapping is a configuration if and only if each field is: its value can be read, or it is not there.

A field has two spellings.  A mapping that is read as it is gives each field the value of the
spelling with capital letters, wherever it stands; with one spelling for every key, the later value
counts.  The two ways to read agree unless a field is spelled twice, with capital letters first.
-/

namespace Hazard
namespace Config

namespace Field

/-- What a field may hold. -/
def Content : Field → Type
  | .enabledPatterns => List Kind
  | .minSeverity => Severity
  | .severityOverrides => List (Kind × Severity)
  | .exclude => List String
  | .genericVariableNames => List String
  | .loopVariableNames => List String
  | .coordinateVariableNames => List String
  | .genericErrorMessages => List String
  | .secretPatterns => List String
  | .blockOnCritical => Bool
  | .blockOnWarning => Bool
  | .showCheckpoint => Bool
  | .showInlineHints => Bool
  | .debounceMs => Int
  | .analyzeOnOpen => Bool
  | .analyzeOnSave => Bool

/-- Reads the content of a field off a value. -/
def check : (field : Field) → Value → Checked field.Content
  | .enabledPatterns => Read.list (Read.named Kind.ofName?)
  | .minSeverity => Read.named Severity.ofName?
  | .severityOverrides => readOverrides
  | .exclude => texts
  | .genericVariableNames => texts
  | .loopVariableNames => texts
  | .coordinateVariableNames => texts
  | .genericErrorMessages => texts
  | .secretPatterns => texts
  | .blockOnCritical => Read.bool
  | .blockOnWarning => Read.bool
  | .showCheckpoint => Read.bool
  | .showInlineHints => Read.bool
  | .debounceMs => Read.int
  | .analyzeOnOpen => Read.bool
  | .analyzeOnSave => Read.bool

/-- No content of the field can be read off the value. -/
def Refuses (field : Field) (value : Value) : Prop :=
  ∀ content, field.check value ≠ .ok content

/-- What is given for a field, or nothing, comes to a content; nothing leaves another content in
force. -/
def Yields (field : Field) (given : Option Value) (otherwise content : field.Content) : Prop :=
  match given with
  | some value => field.check value = .ok content
  | none => otherwise = content

end Field

/-- The content of a field. -/
def content (config : Config) : (field : Field) → field.Content
  | .enabledPatterns => config.enabledKinds
  | .minSeverity => config.minSeverity
  | .severityOverrides => config.severityOverrides
  | .exclude => config.exclude
  | .genericVariableNames => config.extensions.genericNames
  | .loopVariableNames => config.extensions.loopNames
  | .coordinateVariableNames => config.extensions.coordinateNames
  | .genericErrorMessages => config.extensions.errorMessages
  | .secretPatterns => config.extensions.secretPatterns
  | .blockOnCritical => config.blockOnCritical
  | .blockOnWarning => config.blockOnWarning
  | .showCheckpoint => config.showCheckpoint
  | .showInlineHints => config.showInlineHints
  | .debounceMs => config.debounceMs
  | .analyzeOnOpen => config.analyzeOnOpen
  | .analyzeOnSave => config.analyzeOnSave

/-- All that entries say about a field, in order. -/
def sayings (field : Field) (entries : Entries) : Entries :=
  entries.filter fun entry => field.isSpelledBy entry.1

/-- The value of a field in entries that are read as they are: the spelling with capital letters comes
first. -/
def given? (field : Field) (entries : Entries) : Option Value :=
  (Value.find? (.str field.camel) entries).or (Value.find? (.str field.name) entries)

/-- The value that entries give a field last. -/
def latest? (field : Field) (entries : Entries) : Option Value :=
  (sayings field entries).getLast?.map (·.2)

/-! ## Contents -/

theorem texts_textsValue (list : List String) : texts (textsValue list) = .ok list := by
  apply Read.list_eq_ok_iff.mpr
  refine ⟨list.map .str, rfl, ?_⟩
  rw [List.map_map]
  rfl

theorem list_named_kinds (kinds : List Kind) :
    Read.list (Read.named Kind.ofName?) (.list (kinds.map fun kind => .str kind.name)) =
      .ok kinds := by
  apply Read.list_eq_ok_iff.mpr
  refine ⟨_, rfl, ?_⟩
  rw [List.map_map]
  exact List.map_congr_left fun kind _ => Kind.named_name kind

theorem entry_named (kind : Kind) (severity : Severity) :
    Read.entry (Read.named Kind.ofName?) (Read.named Severity.ofName?) (.str kind.name)
      (.str severity.name) = .ok (kind, severity) := by
  rw [Read.entry, Kind.named_name, Severity.named_name]
  rfl

theorem readOverrides_map (overrides : List (Kind × Severity)) :
    readOverrides (.map (overrides.map fun entry => (.str entry.1.name, .str entry.2.name))) =
      .ok overrides := by
  rw [readOverrides, Read.map, Checked.all_eq_ok_iff, List.map_map]
  exact List.map_congr_left fun entry _ => entry_named entry.1 entry.2

/-- The value of a field is read as its content. -/
theorem check_fieldValue (config : Config) (field : Field) :
    field.check (config.fieldValue field) = .ok (config.content field) := by
  cases field with
  | enabledPatterns => exact list_named_kinds _
  | minSeverity => exact Severity.named_name _
  | severityOverrides => exact readOverrides_map _
  | exclude | genericVariableNames | loopVariableNames | coordinateVariableNames
  | genericErrorMessages | secretPatterns => exact texts_textsValue _
  | blockOnCritical | blockOnWarning | showCheckpoint | showInlineHints | debounceMs | analyzeOnOpen
  | analyzeOnSave => rfl

/-- The field as it is read off entries, with the content that it has if they do not say it. -/
def Field.readContent (field : Field) (entries : Entries) : Checked field.Content :=
  field.read field.check (standard.content field) entries

theorem readContent_eq_ok_iff {field : Field} {entries : Entries} {content : field.Content} :
    field.readContent entries = .ok content ↔
      field.Yields (given? field entries) (standard.content field) content := by
  rw [Field.readContent, Field.read, Read.field, given?, List.findSome?_cons, List.findSome?_cons]
  cases Value.find? (.str field.camel) entries with
  | some value => exact Checked.within_eq_ok_iff
  | none =>
      cases Value.find? (.str field.name) entries with
      | some value => exact Checked.within_eq_ok_iff
      | none => exact ⟨Except.ok.inj, congrArg Except.ok⟩

theorem both_ok {α β : Type} {first : Checked (α → β)} {second : Checked α} {f : α → β} {a : α}
    (first_eq : first = .ok f) (second_eq : second = .ok a) : first.both second = .ok (f a) :=
  Checked.both_eq_ok_iff.mpr ⟨f, a, first_eq, second_eq, rfl⟩

/-- Entries are read as a configuration if and only if each field is read as its content. -/
theorem ofEntries_eq_ok_iff {entries : Entries} {config : Config} :
    ofEntries entries = .ok config ↔
      ∀ field : Field,
        field.Yields (given? field entries) (standard.content field) (config.content field) := by
  simp only [← readContent_eq_ok_iff]
  constructor
  · intro read
    simp only [ofEntries, Checked.both_eq_ok_iff] at read
    obtain ⟨_, _, read, analyzeOnSave, rfl⟩ := read
    obtain ⟨_, _, read, analyzeOnOpen, rfl⟩ := read
    obtain ⟨_, _, read, debounceMs, rfl⟩ := read
    obtain ⟨_, _, read, showInlineHints, rfl⟩ := read
    obtain ⟨_, _, read, showCheckpoint, rfl⟩ := read
    obtain ⟨_, _, read, blockOnWarning, rfl⟩ := read
    obtain ⟨_, _, read, blockOnCritical, rfl⟩ := read
    obtain ⟨_, _, read, secretPatterns, rfl⟩ := read
    obtain ⟨_, _, read, genericErrorMessages, rfl⟩ := read
    obtain ⟨_, _, read, coordinateVariableNames, rfl⟩ := read
    obtain ⟨_, _, read, loopVariableNames, rfl⟩ := read
    obtain ⟨_, _, read, genericVariableNames, rfl⟩ := read
    obtain ⟨_, _, read, exclude, rfl⟩ := read
    obtain ⟨_, _, read, severityOverrides, rfl⟩ := read
    obtain ⟨_, _, read, minSeverity, rfl⟩ := read
    obtain ⟨_, _, read, enabledPatterns, rfl⟩ := read
    obtain rfl := Except.ok.inj read
    intro field
    cases field <;> assumption
  · intro read
    exact both_ok (both_ok (both_ok (both_ok (both_ok (both_ok (both_ok (both_ok (both_ok (both_ok
      (both_ok (both_ok (both_ok (both_ok (both_ok (both_ok rfl (read .enabledPatterns))
      (read .minSeverity)) (read .severityOverrides)) (read .exclude)) (read .genericVariableNames))
      (read .loopVariableNames)) (read .coordinateVariableNames)) (read .genericErrorMessages))
      (read .secretPatterns)) (read .blockOnCritical)) (read .blockOnWarning)) (read .showCheckpoint))
      (read .showInlineHints)) (read .debounceMs)) (read .analyzeOnOpen)) (read .analyzeOnSave)

/-! ## Two spellings -/

theorem find?_sayings {field : Field} {key : Scalar} (spelled : field.isSpelledBy key = true)
    (entries : Entries) : Value.find? key (sayings field entries) = Value.find? key entries := by
  rw [Value.find?, Value.find?, sayings, List.find?_filter]
  congr 2
  funext entry
  obtain ⟨text, rfl⟩ : ∃ text, key = .str text := by
    rcases (field.isSpelledBy_iff key).mp spelled with rfl | rfl <;> exact ⟨_, rfl⟩
  by_cases same : entry.1.sameKey (.str text)
  · have key_eq := (Scalar.sameKey_str_iff _ _).mp same
    simp [key_eq, spelled, Scalar.sameKey_refl]
  · simp [same]

theorem given?_sayings (field : Field) (entries : Entries) :
    given? field (sayings field entries) = given? field entries := by
  rw [given?, given?, find?_sayings ((field.isSpelledBy_iff _).mpr (.inl rfl)),
    find?_sayings ((field.isSpelledBy_iff _).mpr (.inr rfl))]

/-- The entries spell the field twice, first with capital letters and then by its name. -/
def CapitalFirst (field : Field) (entries : Entries) (capital plain : Value) : Prop :=
  sayings field entries = [(.str field.camel, capital), (.str field.name, plain)]

theorem CapitalFirst.given?_eq {field : Field} {entries : Entries} {capital plain : Value}
    (twice : CapitalFirst field entries capital plain) :
    given? field entries = some capital := by
  rw [← given?_sayings, twice, given?, Value.find?_cons, if_pos (Scalar.sameKey_refl _)]
  rfl

theorem CapitalFirst.latest?_eq {field : Field} {entries : Entries} {capital plain : Value}
    (twice : CapitalFirst field entries capital plain) :
    latest? field entries = some plain := by
  rw [latest?, twice]
  rfl

/-- Entries with different keys that all spell one field are none, one, or two in either order. -/
theorem cases_of_spelled {field : Field} {said : Entries} (distinct : Value.DistinctKeys said)
    (spelled : ∀ entry ∈ said, field.isSpelledBy entry.1 = true) :
    (said = [] ∨ ∃ key value, field.isSpelledBy key = true ∧ said = [(key, value)]) ∨
      field.camel ≠ field.name ∧
        ∃ capital plain, said = [(.str field.camel, capital), (.str field.name, plain)] ∨
          said = [(.str field.name, plain), (.str field.camel, capital)] := by
  rcases said with _ | ⟨⟨first, a⟩, _ | ⟨⟨second, b⟩, rest⟩⟩
  · exact .inl (.inl rfl)
  · exact .inl (.inr ⟨first, a, spelled _ List.mem_cons_self, rfl⟩)
  · have differ {key other : Scalar} (apart : key.sameKey other = false) : key ≠ other := by
      rintro rfl
      exact absurd (key.sameKey_refl.symm.trans apart) Bool.true_eq_false.mp
    obtain ⟨first_others, distinct⟩ := List.pairwise_cons.mp distinct
    obtain ⟨second_others, -⟩ := List.pairwise_cons.mp distinct
    have either (entry) (member : entry ∈ (first, a) :: (second, b) :: rest) :=
      (field.isSpelledBy_iff entry.1).mp (spelled entry member)
    have first_second := differ (first_others _ List.mem_cons_self)
    have first_key := either _ List.mem_cons_self
    have second_key := either _ (List.mem_cons_of_mem _ List.mem_cons_self)
    -- A third entry would have the key of one of the two.
    have no_third : rest = [] := by
      apply List.eq_nil_iff_forall_not_mem.mpr
      intro third member
      have first_third := differ (first_others third (List.mem_cons_of_mem _ member))
      have second_third := differ (second_others third member)
      have third_key := either third (List.mem_cons_of_mem _ (List.mem_cons_of_mem _ member))
      grind
    subst no_third
    refine .inr ?_
    rcases first_key with rfl | rfl
    · obtain rfl := second_key.resolve_left first_second.symm
      exact ⟨fun same => first_second (congrArg Scalar.str same), a, b, .inl rfl⟩
    · obtain rfl := second_key.resolve_right first_second.symm
      exact ⟨fun same => first_second (congrArg Scalar.str same.symm), b, a, .inr rfl⟩

/-- What a mapping gives a field is its later value, unless the field is spelled twice with capital
letters first. -/
theorem given?_eq_latest? {entries : Entries} (keys : Value.DistinctKeys entries) {field : Field}
    (notTwice : ∀ capital plain, ¬ CapitalFirst field entries capital plain) :
    given? field entries = latest? field entries := by
  have distinct : Value.DistinctKeys (sayings field entries) := keys.filter _
  have spelled : ∀ entry ∈ sayings field entries, field.isSpelledBy entry.1 = true :=
    fun entry member => (List.mem_filter.mp member).2
  rw [← given?_sayings, latest?]
  rcases cases_of_spelled distinct spelled with
    (none_said | ⟨key, value, key_spelled, one_said⟩) | ⟨capitals, capital, plain, twice | twice⟩
  · rw [none_said]
    rfl
  · rw [one_said]
    rcases (field.isSpelledBy_iff key).mp key_spelled with rfl | rfl
    · simp [given?, Value.find?_cons, Scalar.sameKey_refl]
    · simp only [given?, Value.find?_cons, Scalar.sameKey_refl]
      split <;> rfl
  · exact absurd twice (notTwice capital plain)
  · have apart : (Scalar.str field.name).sameKey (.str field.camel) = false := by
      rw [Scalar.sameKey_str, beq_eq_false_iff_ne]
      exact capitals.symm
    rw [twice, given?, Value.find?_cons, apart, Value.find?_cons, Scalar.sameKey_refl]
    rfl

theorem find?_name_normalizeKeys (field : Field) (entries : Entries) :
    Value.find? (.str field.name) (normalizeKeys entries) = latest? field entries := by
  rw [normalizeKeys, Value.ofEntries, Value.find?_foldl_put_reverse, Value.find?_nil, Option.or_none,
    ← List.map_reverse, Value.find?, List.find?_map, Option.map_map, latest?, sayings,
    List.getLast?_filter]
  simp only [Function.comp_def, sameKey_canonicalKey]

/-- With one spelling for every key, the later value counts. -/
theorem given?_normalizeKeys (field : Field) (entries : Entries) :
    given? field (normalizeKeys entries) = latest? field entries := by
  rw [given?]
  by_cases capital : field.camel = field.name
  · rw [capital, find?_name_normalizeKeys, Option.or_self]
  · rw [find?_camel_normalizeKeys capital, find?_name_normalizeKeys, Option.none_or]

/-! ## Reading as it is and with one spelling -/

/-- The configuration with these contents. -/
def ofContents (contents : (field : Field) → field.Content) : Config :=
  { enabledKinds := contents .enabledPatterns
    minSeverity := contents .minSeverity
    severityOverrides := contents .severityOverrides
    exclude := contents .exclude
    extensions :=
      { genericNames := contents .genericVariableNames
        loopNames := contents .loopVariableNames
        coordinateNames := contents .coordinateVariableNames
        errorMessages := contents .genericErrorMessages
        secretPatterns := contents .secretPatterns }
    blockOnCritical := contents .blockOnCritical
    blockOnWarning := contents .blockOnWarning
    showCheckpoint := contents .showCheckpoint
    showInlineHints := contents .showInlineHints
    debounceMs := contents .debounceMs
    analyzeOnOpen := contents .analyzeOnOpen
    analyzeOnSave := contents .analyzeOnSave }

theorem content_ofContents (contents : (field : Field) → field.Content) (field : Field) :
    (ofContents contents).content field = contents field := by
  cases field <;> rfl

theorem resolve_eq_ok_iff {entries : Entries} {config : Config} :
    resolve entries = .ok config ↔ ofEntries entries = .ok config := by
  unfold resolve
  cases ofEntries entries with
  | ok other => exact ⟨fun same => congrArg Except.ok (Except.ok.inj same), fun same =>
      congrArg Except.ok (Except.ok.inj same)⟩
  | error issues => simp

/-- Entries are no configuration if and only if the value of some field cannot be read. -/
theorem exists_refuses_iff {entries : Entries} :
    (∃ (field : Field) (value : Value), given? field entries = some value ∧ field.Refuses value) ↔
      ∀ config, resolve entries ≠ .ok config := by
  constructor
  · rintro ⟨field, value, given, refuses⟩ config resolved
    have read := ofEntries_eq_ok_iff.mp (resolve_eq_ok_iff.mp resolved) field
    rw [given] at read
    exact refuses _ read
  · intro unresolved
    by_contra readable
    have each (field : Field) :
        ∃ content, field.Yields (given? field entries) (standard.content field) content := by
      cases given : given? field entries with
      | none => exact ⟨_, rfl⟩
      | some value =>
          by_contra refuses
          exact readable ⟨field, value, given, not_exists.mp refuses⟩
    choose contents yields using each
    apply unresolved (ofContents contents)
    apply resolve_eq_ok_iff.mpr
    apply ofEntries_eq_ok_iff.mpr
    intro field
    rw [content_ofContents]
    exact yields field

/-- Both entries are read as the same configuration, or both as none. -/
def ReadAlike (entries others : Entries) : Prop :=
  ∀ config, resolve entries = .ok config ↔ resolve others = .ok config

/-- A mapping is read alike as it is and with one spelling for every key if and only if each way meets
a value that cannot be read, or the two values of every field that is spelled twice, with capital
letters first, have one content. -/
theorem readAlike_normalizeKeys_iff {raw : Entries} (keys : Value.DistinctKeys raw) :
    ReadAlike raw (normalizeKeys raw) ↔
      ((∃ (field : Field) (value : Value), given? field raw = some value ∧ field.Refuses value) ∧
        ∃ (field : Field) (value : Value), latest? field raw = some value ∧ field.Refuses value) ∨
      ∀ (field : Field) (capital plain : Value), CapitalFirst field raw capital plain →
        ∃ content, field.check capital = .ok content ∧ field.check plain = .ok content := by
  have normalized := @exists_refuses_iff (normalizeKeys raw)
  simp only [given?_normalizeKeys] at normalized
  constructor
  · intro alike
    by_cases resolved : ∃ config, resolve raw = .ok config
    · obtain ⟨config, resolved⟩ := resolved
      have direct := ofEntries_eq_ok_iff.mp (resolve_eq_ok_iff.mp resolved)
      have respelled := ofEntries_eq_ok_iff.mp (resolve_eq_ok_iff.mp ((alike config).mp resolved))
      refine .inr fun field capital plain twice => ⟨config.content field, ?_, ?_⟩
      · have read := direct field
        rwa [twice.given?_eq] at read
      · have read := respelled field
        rwa [given?_normalizeKeys, twice.latest?_eq] at read
    · have unresolved := not_exists.mp resolved
      exact .inl ⟨exists_refuses_iff.mpr unresolved,
        normalized.mpr fun config read => unresolved config ((alike config).mpr read)⟩
  · rintro (⟨direct, respelled⟩ | same) config
    · exact iff_of_false (exists_refuses_iff.mp direct config) (normalized.mp respelled config)
    · rw [resolve_eq_ok_iff, resolve_eq_ok_iff, ofEntries_eq_ok_iff, ofEntries_eq_ok_iff]
      refine forall_congr' fun field => ?_
      rw [given?_normalizeKeys]
      by_cases twice : ∃ capital plain, CapitalFirst field raw capital plain
      · obtain ⟨capital, plain, twice⟩ := twice
        obtain ⟨content, of_capital, of_plain⟩ := same field capital plain twice
        rw [twice.given?_eq, twice.latest?_eq, Field.Yields, Field.Yields, of_capital, of_plain]
      · rw [given?_eq_latest? keys fun capital plain first => twice ⟨capital, plain, first⟩]

/-- A mapping that spells one field twice, with values that are read as one truth value. -/
def warnedTwice : Entries :=
  [(.str "blockOnWarning", .str "yes"), (.str "exclude", .list []), (.str "block_on_warning", .bool true)]

theorem readAlike_warnedTwice :
    Value.DistinctKeys warnedTwice ∧ ReadAlike warnedTwice (normalizeKeys warnedTwice) := by
  have keys : Value.DistinctKeys warnedTwice := by
    simp [Value.DistinctKeys, warnedTwice, Scalar.sameKey_str]
  refine ⟨keys, (readAlike_normalizeKeys_iff keys).mpr (.inr ?_)⟩
  intro field capital plain twice
  have both : ∀ entry ∈ [(Scalar.str field.camel, capital), (.str field.name, plain)],
      entry ∈ warnedTwice := fun entry member => (List.mem_filter.mp (twice ▸ member)).1
  have capital_mem := both _ List.mem_cons_self
  have plain_mem := both _ (List.mem_cons_of_mem _ List.mem_cons_self)
  cases field with
  | blockOnWarning =>
      obtain rfl : capital = .str "yes" := by simpa [warnedTwice, Field.camel] using capital_mem
      obtain rfl : plain = .bool true := by simpa [warnedTwice, Field.name] using plain_mem
      exact ⟨true, rfl, rfl⟩
  | exclude =>
      obtain rfl : capital = .list [] := by simpa [warnedTwice, Field.camel] using capital_mem
      obtain rfl : plain = .list [] := by simpa [warnedTwice, Field.name] using plain_mem
      exact ⟨[], rfl, rfl⟩
  | _ => simp [warnedTwice, Field.camel] at capital_mem

/-- A mapping that spells one field twice, with different values. -/
def spelledTwice : Entries :=
  [(.str "minSeverity", .str "critical"), (.str "min_severity", .str "info")]

/-- Read as it is, the mapping reports critical findings only; with one spelling, all of them. -/
theorem not_readAlike_spelledTwice : ¬ ReadAlike spelledTwice (normalizeKeys spelledTwice) := by
  have direct : resolve spelledTwice = .ok { standard with minSeverity := .critical } := by rfl
  have respelled : resolve (normalizeKeys spelledTwice) = .ok standard := by rfl
  intro alike
  have same := respelled.symm.trans ((alike _).mp direct)
  exact absurd (congrArg Config.minSeverity (Except.ok.inj same)) (by decide)

end Config
end Hazard
