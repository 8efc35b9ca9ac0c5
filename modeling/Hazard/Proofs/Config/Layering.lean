import Hazard.Proofs.Config.Loading
import Hazard.Proofs.Data.Yaml.Keys
import Mathlib.Data.List.Basic
import Mathlib.Data.List.Forall2

/-!
# Layers of a configuration

The standard configuration lies under the one at home, and that under the one of the project.  Loading
merges mappings with both spellings of keys, and reads the result.  The outcome is that of reading one
table, in which every field has the value of the uppermost layer that says anything about it; only
the severities of kinds are put together key by key.  How the keys are spelled does not matter.
-/

namespace Hazard
namespace Config

/-- The key spells the field, in one of the two ways. -/
def Field.isSpelledBy (field : Field) (key : Scalar) : Bool :=
  key == .str field.camel || key == .str field.name

/-- What entries say about a field. -/
def said? (field : Field) (entries : Entries) : Option Value :=
  (entries.find? fun entry => field.isSpelledBy entry.1).map (·.2)

/-- Every field is spelled at most once. -/
def SpelledOnce (entries : Entries) : Prop :=
  ∀ field : Field, (entries.filter fun entry => field.isSpelledBy entry.1).length ≤ 1

/-- Each entry of the lower mapping, with the value of the upper one if it has the key, and then the
entries of the upper mapping whose keys are new. -/
def keyByKey (lower upper : Entries) : Entries :=
  lower.map (fun entry => (entry.1, (Value.find? entry.1 upper).getD entry.2)) ++
    upper.filter fun entry => (Value.find? entry.1 lower).isNone

/-- What two layers say about the severities of kinds. -/
def layeredOverrides : Option Value → Option Value → Option Value
  | some (.map lower), some (.map upper) => some (.map (keyByKey lower upper))
  | lower, upper => upper.or lower

/-- The value of a field in two layers over the standard configuration. -/
def layeredValue (lower upper : Entries) (field : Field) : Value :=
  (if field = .severityOverrides then
      layeredOverrides (said? field lower) (said? field upper)
    else (said? field upper).or (said? field lower)).getD (standard.fieldValue field)

/-- The table of all fields with their values in two layers. -/
def layered (lower upper : Entries) : Entries :=
  Field.all.map fun field => (.str field.name, layeredValue lower upper field)

/-- The keys are equal, or they spell one field. -/
def Respells (key other : Scalar) : Prop :=
  key = other ∨ ∃ field : Field, field.isSpelledBy key = true ∧ field.isSpelledBy other = true

/-- The entries differ in the spelling of their keys alone. -/
def Respelled (entries others : Entries) : Prop :=
  List.Forall₂ (fun entry other => Respells entry.1 other.1 ∧ entry.2 = other.2) entries others

/-- The entries of the layer at home: those of the file there, and none if there is no file or its
fault is told as one of the configuration. -/
inductive AtHome (store : Store) : Entries → Prop
  | absent (missing : store.hasFile (homePath store) = false) : AtHome store []
  | ignored {fault : LoadError} (present : store.hasFile (homePath store) = true)
      (failed : loadFile store (homePath store) = .error fault)
      (reported : fault.isReported = true) : AtHome store []
  | loaded {entries : Entries} (present : store.hasFile (homePath store) = true)
      (read : loadFile store (homePath store) = .ok entries) : AtHome store entries

/-- The entries of the layer of the project: those of its file, and none if there is no file. -/
inductive InProject (store : Store) (start : Path) (given : Option String) : Entries → Prop
  | absent (missing : (projectFile store start given).outcome = .ok none) :
      InProject store start given []
  | loaded {path : Path} {entries : Entries}
      (found : (projectFile store start given).outcome = .ok (some path))
      (read : loadFile store path = .ok entries) : InProject store start given entries

/-! ## Spellings -/

namespace Field

theorem mem_all (field : Field) : field ∈ all := by
  cases field <;> decide

theorem name_injective {field other : Field} (same : field.name = other.name) : field = other := by
  have all_differ : ∀ a ∈ all, ∀ b ∈ all, a.name = b.name → a = b := by decide +kernel
  exact all_differ field field.mem_all other other.mem_all same

theorem camel_injective {field other : Field} (same : field.camel = other.camel) :
    field = other := by
  have all_differ : ∀ a ∈ all, ∀ b ∈ all, a.camel = b.camel → a = b := by decide +kernel
  exact all_differ field field.mem_all other other.mem_all same

theorem eq_of_name_eq_camel {field other : Field} (same : field.name = other.camel) :
    field = other := by
  have all_differ : ∀ a ∈ all, ∀ b ∈ all, a.name = b.camel → a = b := by decide +kernel
  exact all_differ field field.mem_all other other.mem_all same

theorem isSpelledBy_iff (field : Field) (key : Scalar) :
    field.isSpelledBy key = true ↔ key = .str field.camel ∨ key = .str field.name := by
  simp [isSpelledBy]

end Field

/-- A spelling that tells fields apart finds its field. -/
theorem find?_all {spelling : Field → String}
    (injective : ∀ a b : Field, spelling a = spelling b → a = b) (field : Field) :
    (Field.all.find? fun other => spelling other == spelling field) = some field := by
  cases found : Field.all.find? fun other => spelling other == spelling field with
  | none => simpa using List.find?_eq_none.mp found field field.mem_all
  | some other =>
      have same : spelling other = spelling field := by simpa using List.find?_some found
      rw [injective other field same]

theorem find?_camel (field : Field) :
    (Field.all.find? fun other => other.camel == field.camel) = some field :=
  find?_all (fun _ _ => Field.camel_injective) field

/-- The canonical key of a field is that of its two spellings and of no other key. -/
theorem canonicalKey_eq_iff (field : Field) (key : Scalar) :
    canonicalKey key = .str field.name ↔ field.isSpelledBy key = true := by
  rw [field.isSpelledBy_iff]
  cases key with
  | str text =>
      rw [canonicalKey]
      cases found : Field.all.find? fun other => other.camel == text with
      | none =>
          simp only [Scalar.str.injEq]
          refine ⟨.inr, fun spelled => spelled.resolve_left ?_⟩
          rintro rfl
          rw [find?_camel] at found
          contradiction
      | some other =>
          have same : other.camel = text := by simpa using List.find?_some found
          simp only [Scalar.str.injEq]
          constructor
          · exact fun names => .inl (Field.name_injective names ▸ same.symm)
          · rintro (camel | name)
            · rw [Field.camel_injective (same.trans camel)]
            · rw [Field.eq_of_name_eq_camel (name.symm.trans same.symm)]
  | _ => simp [canonicalKey]

/-- No canonical key is spelled with capital letters. -/
theorem canonicalKey_ne_camel {field : Field} (capital : field.camel ≠ field.name) (key : Scalar) :
    canonicalKey key ≠ .str field.camel := by
  cases key with
  | str text =>
      rw [canonicalKey]
      cases found : Field.all.find? fun other => other.camel == text with
      | none =>
          rintro ⟨⟩
          rw [find?_camel] at found
          contradiction
      | some other =>
          intro same
          have names := Scalar.str.inj same
          obtain rfl := Field.eq_of_name_eq_camel names
          exact capital names.symm
  | _ => simp [canonicalKey]

theorem Respelled.normalizeKeys_eq {entries others : Entries} (respelled : Respelled entries others) :
    normalizeKeys entries = normalizeKeys others := by
  have canonical : entries.map (fun entry => (canonicalKey entry.1, entry.2)) =
      others.map fun entry => (canonicalKey entry.1, entry.2) := by
    induction respelled with
    | nil => rfl
    | cons same _ ih =>
        obtain ⟨key, value⟩ := same
        rw [List.map_cons, List.map_cons, ih, value]
        rcases key with same | ⟨field, first, second⟩
        · rw [same]
        · rw [(canonicalKey_eq_iff field _).mpr first, (canonicalKey_eq_iff field _).mpr second]
  exact congrArg Value.ofEntries canonical

theorem sameKey_canonicalKey (field : Field) (key : Scalar) :
    (canonicalKey key).sameKey (.str field.name) = field.isSpelledBy key := by
  rw [Bool.eq_iff_iff, Scalar.sameKey_str_iff, canonicalKey_eq_iff]

/-- Under the name of a field, entries with one spelling say what they said in either. -/
theorem find?_normalizeKeys {entries : Entries} (once : SpelledOnce entries) (field : Field) :
    Value.find? (.str field.name) (normalizeKeys entries) = said? field entries := by
  have once' : Value.Once (.str field.name)
      (entries.map fun entry => (canonicalKey entry.1, entry.2)) := by
    rw [Value.Once, List.filter_map, List.length_map]
    simpa only [Function.comp_def, sameKey_canonicalKey] using once field
  rw [normalizeKeys, Value.ofEntries, Value.find?_foldl_put once', Value.find?_nil, Option.or_none,
    Value.find?, List.find?_map, said?, Option.map_map]
  simp only [Function.comp_def, sameKey_canonicalKey]

theorem distinctKeys_normalizeKeys (entries : Entries) : Value.DistinctKeys (normalizeKeys entries) :=
  Value.distinctKeys_ofEntries _

/-- Entries with one spelling have no key with capital letters. -/
theorem find?_camel_normalizeKeys {field : Field} (capital : field.camel ≠ field.name)
    (entries : Entries) : Value.find? (.str field.camel) (normalizeKeys entries) = none := by
  have absent : ∀ entry ∈ entries.map (fun entry => (canonicalKey entry.1, entry.2)),
      entry.1.sameKey (.str field.camel) = false := by
    intro entry member
    obtain ⟨original, -, rfl⟩ := List.mem_map.mp member
    rw [Bool.eq_false_iff, ne_eq, Scalar.sameKey_str_iff]
    exact canonicalKey_ne_camel capital original.1
  have none_there : (entries.map fun entry => (canonicalKey entry.1, entry.2)).filter
      (fun entry => entry.1.sameKey (.str field.camel)) = [] := by
    rw [List.filter_eq_nil_iff]
    exact fun entry member => Bool.eq_false_iff.mp (absent entry member)
  have once : Value.Once (.str field.camel)
      (entries.map fun entry => (canonicalKey entry.1, entry.2)) := by
    rw [Value.Once, none_there]
    exact Nat.zero_le 1
  rw [normalizeKeys, Value.ofEntries, Value.find?_foldl_put once, Value.find?_eq_none_iff.mpr absent]
  rfl

/-! ## Merging -/

/-- What stands under a key where something that may be absent is laid over something there. -/
def laidOver (base : Option Value) : Option Value → Option Value
  | some value => some (mergeValue base value)
  | none => base

/-- Where entries with one entry under a key are laid over others, its value is merged with what was
there. -/
theorem find?_deepMerge {key : Scalar} {entries : Entries} (once : Value.Once key entries)
    (base : Entries) :
    Value.find? key (deepMerge base entries) =
      laidOver (Value.find? key base) (Value.find? key entries) := by
  induction entries generalizing base with
  | nil =>
      rw [deepMerge]
      rfl
  | cons entry entries ih =>
      rw [deepMerge, ih once.tail, Value.find?_put, Value.find?_cons]
      by_cases here : entry.1.sameKey key
      · have same : Value.find? entry.1 base = Value.find? key base := by
          rw [Value.find?, Value.find?]
          congr 2
          funext other
          rw [Scalar.sameKey_comm, Scalar.sameKey_congr here, Scalar.sameKey_comm]
        rw [once.find?_tail here, if_pos here, if_pos here, same]
        rfl
      · rw [if_neg here, if_neg here]

/-- The values are equal, or both are mappings. -/
def Alike (a b : Value) : Prop := a = b ∨ ∃ entries others, a = .map entries ∧ b = .map others

/-- The keys are equal, and the values alike. -/
def AlikeEntries (entries others : Entries) : Prop :=
  List.Forall₂ (fun entry other => entry.1 = other.1 ∧ Alike entry.2 other.2) entries others

theorem alike_mergeValue (base : Option Value) (value : Value) :
    Alike (mergeValue base value) value := by
  cases value with
  | scalar | list =>
      rw [mergeValue.eq_def]
      exact .inl rfl
  | map entries =>
      rw [mergeValue.eq_def]
      dsimp only
      split
      · exact .inr ⟨_, _, rfl, rfl⟩
      · exact .inl rfl

theorem AlikeEntries.refl (entries : Entries) : AlikeEntries entries entries :=
  List.forall₂_same.mpr fun _ _ => ⟨rfl, .inl rfl⟩

theorem AlikeEntries.put {entries others : Entries} (alike : AlikeEntries entries others)
    (key : Scalar) {value value' : Value} (same : Alike value value') :
    AlikeEntries (Value.put key value entries) (Value.put key value' others) := by
  induction alike with
  | nil => exact .cons ⟨rfl, same⟩ .nil
  | @cons entry other entries others first rest ih =>
      rw [Value.put, Value.put, ← first.1]
      split
      · exact .cons ⟨rfl, same⟩ rest
      · exact .cons ⟨rfl, first.2⟩ ih

/-- Merging mappings inside the values or not makes no difference but for what is inside them. -/
theorem AlikeEntries.deepMerge {base base' : Entries} (alike : AlikeEntries base base')
    (entries : Entries) : AlikeEntries (Config.deepMerge base entries) (overlay base' entries) := by
  induction entries generalizing base base' with
  | nil =>
      rw [Config.deepMerge]
      exact alike
  | cons entry entries ih =>
      rw [Config.deepMerge]
      exact ih (alike.put entry.1 (alike_mergeValue _ entry.2))

/-- Putting an entry with a key that the upper mapping lacks is the same as beginning the upper
mapping with it. -/
theorem keyByKey_put {lower upper : Entries} {key : Scalar} (distinct : Value.DistinctKeys lower)
    (fresh : Value.find? key upper = none) (value : Value) :
    (Value.put key value lower).map
        (fun entry => (entry.1, (Value.find? entry.1 upper).getD entry.2)) =
      lower.map (fun entry => (entry.1, (Value.find? entry.1 ((key, value) :: upper)).getD entry.2)) ++
        if (Value.find? key lower).isNone then [(key, value)] else [] := by
  have elsewhere {entry : Scalar × Value} (differs : key.sameKey entry.1 = false) :
      Value.find? entry.1 ((key, value) :: upper) = Value.find? entry.1 upper := by
    rw [Value.find?_cons, if_neg (Bool.eq_false_iff.mp differs)]
  induction lower with
  | nil => simp [Value.put, fresh]
  | cons entry lower ih =>
      obtain ⟨others, distinct⟩ := List.pairwise_cons.mp distinct
      rw [Value.put]
      by_cases here : entry.1.sameKey key
      · have there : key.sameKey entry.1 = true := (Scalar.sameKey_comm _ _).trans here
        have absent : Value.find? entry.1 upper = none := by
          rw [Value.find?_eq_none_iff] at fresh ⊢
          intro other member
          rw [Scalar.sameKey_comm, Scalar.sameKey_congr here, Scalar.sameKey_comm]
          exact fresh other member
        have rest : ∀ other ∈ lower, key.sameKey other.1 = false := fun other member =>
          (Scalar.sameKey_congr there other.1).trans (others other member)
        rw [if_pos here, List.map_cons, List.map_cons, Value.find?_cons entry.1, if_pos there,
          Value.find?_cons key, if_pos here, absent]
        simp only [Option.getD_none, Option.getD_some, Option.isNone_some, Bool.false_eq_true,
          if_false, List.append_nil]
        refine congrArg _ (List.map_congr_left fun other member => ?_)
        rw [elsewhere (rest other member)]
      · have differs : key.sameKey entry.1 = false := by
          rw [Scalar.sameKey_comm]
          exact Bool.eq_false_iff.mpr here
        rw [if_neg here, List.map_cons, List.map_cons, ih distinct, elsewhere differs,
          Value.find?_cons key, if_neg here, List.cons_append]

/-- Laying entries over others, each as a whole, takes them key by key. -/
theorem overlay_eq_keyByKey {lower upper : Entries} (lowerKeys : Value.DistinctKeys lower)
    (upperKeys : Value.DistinctKeys upper) : overlay lower upper = keyByKey lower upper := by
  induction upper generalizing lower with
  | nil => simp [overlay, keyByKey]
  | cons entry upper ih =>
      obtain ⟨key, value⟩ := entry
      have fresh := (upperKeys.once key).find?_tail (Scalar.sameKey_refl key)
      obtain ⟨others, upperKeys⟩ := List.pairwise_cons.mp upperKeys
      have same_new :
          upper.filter (fun entry => (Value.find? entry.1 (Value.put key value lower)).isNone) =
            upper.filter fun entry => (Value.find? entry.1 lower).isNone := by
        refine List.filter_congr fun other member => ?_
        rw [Value.find?_put, if_neg (Bool.eq_false_iff.mp (others other member))]
      change overlay (Value.put key value lower) upper = _
      rw [ih (lowerKeys.put key value) upperKeys, keyByKey, keyByKey, keyByKey_put lowerKeys fresh,
        same_new, List.filter_cons, List.append_assoc]
      split <;> rfl

theorem find?_keyByKey {lower upper : Entries} (lowerKeys : Value.DistinctKeys lower)
    (upperKeys : Value.DistinctKeys upper) (key : Scalar) :
    Value.find? key (keyByKey lower upper) = (Value.find? key upper).or (Value.find? key lower) := by
  rw [← overlay_eq_keyByKey lowerKeys upperKeys]
  exact Value.find?_foldl_put (upperKeys.once key) lower

theorem keyByKey_nil (upper : Entries) : keyByKey [] upper = upper := by
  simp [keyByKey]

/-! ## Tables of all fields -/

/-- The entries hold the values under the names of the fields, and nothing under other spellings. -/
structure Holds (entries : Entries) (values : Field → Value) : Prop where
  plain : ∀ field : Field, field.camel ≠ field.name → Value.find? (.str field.camel) entries = none
  found : ∀ field : Field, Value.find? (.str field.name) entries = some (values field)

theorem holds_table (values : Field → Value) :
    Holds (Field.all.map fun field => (.str field.name, values field)) values where
  plain field capital := by
    rw [Value.find?_eq_none_iff]
    intro entry member
    obtain ⟨other, -, rfl⟩ := List.mem_map.mp member
    rw [Scalar.sameKey_str, beq_eq_false_iff_ne]
    intro same
    obtain rfl := Field.eq_of_name_eq_camel same
    exact capital same.symm
  found field := by
    have named := find?_all (fun _ _ => Field.name_injective) field
    rw [Value.find?, List.find?_map]
    simp only [Function.comp_def, Scalar.sameKey_str, named, Option.map_some]

theorem Holds.deepMerge {base : Entries} {values : Field → Value} (holds : Holds base values)
    {entries : Entries} (once : SpelledOnce entries) :
    Holds (Config.deepMerge base (normalizeKeys entries)) fun field =>
      (laidOver (some (values field)) (said? field entries)).getD (values field) where
  plain field capital := by
    rw [find?_deepMerge ((distinctKeys_normalizeKeys entries).once _), holds.plain field capital,
      find?_camel_normalizeKeys capital]
    rfl
  found field := by
    rw [find?_deepMerge ((distinctKeys_normalizeKeys entries).once _), holds.found field,
      find?_normalizeKeys once]
    cases said? field entries <;> rfl

theorem Holds.read_eq {entries : Entries} {values : Field → Value} (holds : Holds entries values)
    (field : Field) {α : Type} (check : Value → Checked α) (absent : α) :
    field.read check absent entries = (check (values field)).within (.key field.name) := by
  have found := holds.found field
  rw [Field.read, Read.field]
  by_cases capital : field.camel = field.name
  · simp [capital, found]
  · simp [holds.plain field capital, found]

/-- A check that does not look into mappings. -/
def Blunt {α : Type} (check : Value → Checked α) : Prop :=
  ∀ entries others, check (.map entries) = check (.map others)

theorem Blunt.congr {α : Type} {check : Value → Checked α} (blunt : Blunt check) {a b : Value}
    (alike : Alike a b) : check a = check b := by
  rcases alike with rfl | ⟨entries, others, rfl, rfl⟩
  · rfl
  · exact blunt entries others

/-- The check of the severities of kinds. -/
def readOverrides : Value → Checked (List (Kind × Severity)) :=
  Read.map (Read.named Kind.ofName?) (Read.named Severity.ofName?)

/-- Reading sees of a table only the severities of kinds in detail. -/
theorem Holds.ofEntries_eq {entries others : Entries} {values values' : Field → Value}
    (holds : Holds entries values) (holds' : Holds others values')
    (alike : ∀ field, field ≠ .severityOverrides → Alike (values field) (values' field))
    (overrides : readOverrides (values .severityOverrides) =
      readOverrides (values' .severityOverrides)) : ofEntries entries = ofEntries others := by
  have same {α : Type} {check : Value → Checked α} (blunt : Blunt check) (field : Field)
      (plain : field ≠ .severityOverrides) (absent : α) :
      field.read check absent entries = field.read check absent others := by
    rw [holds.read_eq, holds'.read_eq, blunt.congr (alike field plain)]
  have sameTexts := @same _ texts fun _ _ => rfl
  have sameBool := @same _ Read.bool fun _ _ => rfl
  have sameKinds := @same _ (Read.list (Read.named Kind.ofName?)) fun _ _ => rfl
  have sameSeverity := @same _ (Read.named Severity.ofName?) fun _ _ => rfl
  have sameInt := @same _ Read.int fun _ _ => rfl
  have sameOverrides (absent : List (Kind × Severity)) :
      Field.severityOverrides.read readOverrides absent entries =
        Field.severityOverrides.read readOverrides absent others := by
    rw [holds.read_eq, holds'.read_eq, overrides]
  simp only [readOverrides] at sameOverrides
  simp only [ofEntries, sameOverrides, sameKinds .enabledPatterns (by decide),
    sameSeverity .minSeverity (by decide), sameTexts .exclude (by decide),
    sameTexts .genericVariableNames (by decide), sameTexts .loopVariableNames (by decide),
    sameTexts .coordinateVariableNames (by decide), sameTexts .genericErrorMessages (by decide),
    sameTexts .secretPatterns (by decide), sameBool .blockOnCritical (by decide),
    sameBool .blockOnWarning (by decide), sameBool .showCheckpoint (by decide),
    sameBool .showInlineHints (by decide), sameInt .debounceMs (by decide),
    sameBool .analyzeOnOpen (by decide), sameBool .analyzeOnSave (by decide)]

/-! ## Two layers -/

/-- The value of a field after two layers were merged over the standard configuration. -/
def mergedValue (lower upper : Entries) (field : Field) : Value :=
  let base := standard.fieldValue field
  let below := (laidOver (some base) (said? field lower)).getD base
  (laidOver (some below) (said? field upper)).getD below

theorem alike_mergedValue (lower upper : Entries) {field : Field}
    (plain : field ≠ .severityOverrides) :
    Alike (mergedValue lower upper field) (layeredValue lower upper field) := by
  rw [mergedValue, layeredValue, if_neg plain]
  cases said? field upper with
  | some value => exact alike_mergeValue _ value
  | none =>
      cases said? field lower with
      | some value => exact alike_mergeValue _ value
      | none => exact .inl rfl

/-- The values are equal, or mappings with the same keys and values that are alike. -/
def AlikeWithin (a b : Value) : Prop :=
  a = b ∨ ∃ entries others, a = .map entries ∧ b = .map others ∧ AlikeEntries entries others

theorem AlikeWithin.readOverrides_eq {a b : Value} (alike : AlikeWithin a b) :
    readOverrides a = readOverrides b := by
  rcases alike with rfl | ⟨entries, others, rfl, rfl, alike⟩
  · rfl
  · have blunt : Blunt (Read.named Severity.ofName?) := fun _ _ => rfl
    refine congrArg Checked.all ?_
    induction alike with
    | nil => rfl
    | @cons entry other _ _ same _ ih =>
        obtain ⟨key, value⟩ := entry
        obtain ⟨key', value'⟩ := other
        obtain ⟨rfl, alike⟩ : key = key' ∧ Alike value value' := same
        rw [List.map_cons, List.map_cons, ih]
        simp only [Read.entry, blunt.congr alike]

/-- A mapping that is merged into none is the mapping, but for what is inside its values. -/
theorem alikeEntries_deepMerge_nil {entries : Entries} (keys : Value.DistinctKeys entries) :
    AlikeEntries (deepMerge [] entries) entries := by
  have merged := (AlikeEntries.refl []).deepMerge entries
  rwa [overlay_eq_keyByKey List.Pairwise.nil keys, keyByKey_nil] at merged

theorem mergeValue_map_map (known entries : Entries) :
    mergeValue (some (.map known)) (.map entries) = .map (deepMerge known entries) := by
  rw [mergeValue]

/-- One layer over the severities of the standard configuration, of which there are none. -/
theorem alikeWithin_laidOver_nil {said : Option Value}
    (keyed : ∀ entries, said = some (.map entries) → Value.DistinctKeys entries) :
    AlikeWithin ((laidOver (some (.map [])) said).getD (.map [])) (said.getD (.map [])) := by
  cases said with
  | none => exact .inl rfl
  | some value =>
      cases value with
      | scalar | list =>
          rw [laidOver, mergeValue.eq_def]
          exact .inl rfl
      | map entries =>
          rw [laidOver, mergeValue_map_map]
          exact .inr ⟨_, _, rfl, rfl, alikeEntries_deepMerge_nil (keyed entries rfl)⟩

theorem layeredOverrides_of_not_map (lower : Option Value) {upper : Option Value}
    (other : ∀ entries, upper ≠ some (.map entries)) :
    layeredOverrides lower upper = upper.or lower := by
  rw [layeredOverrides.eq_def]
  split
  · exact absurd rfl (other _)
  · rfl

/-- Two layers over the severities of the standard configuration. -/
theorem alikeWithin_laidOver {lower upper : Option Value}
    (lowerKeyed : ∀ entries, lower = some (.map entries) → Value.DistinctKeys entries)
    (upperKeyed : ∀ entries, upper = some (.map entries) → Value.DistinctKeys entries) :
    AlikeWithin
      ((laidOver (some ((laidOver (some (.map [])) lower).getD (.map []))) upper).getD
        ((laidOver (some (.map [])) lower).getD (.map [])))
      ((layeredOverrides lower upper).getD (.map [])) := by
  cases upper with
  | none =>
      rw [layeredOverrides_of_not_map lower fun _ => (Option.some_ne_none _).symm, Option.none_or]
      exact alikeWithin_laidOver_nil lowerKeyed
  | some value =>
      cases value with
      | scalar | list =>
          rw [laidOver, mergeValue.eq_def, layeredOverrides_of_not_map lower (by simp)]
          exact .inl rfl
      | map entries =>
          cases lower with
          | none => exact alikeWithin_laidOver_nil upperKeyed
          | some below =>
              cases below with
              | scalar | list =>
                  rw [laidOver, laidOver, mergeValue.eq_def, mergeValue.eq_def]
                  exact .inl rfl
              | map known =>
                  have knownKeys := lowerKeyed known rfl
                  have merged := (alikeEntries_deepMerge_nil knownKeys).deepMerge entries
                  rw [overlay_eq_keyByKey knownKeys (upperKeyed entries rfl)] at merged
                  simp only [laidOver, mergeValue_map_map, Option.getD_some]
                  exact .inr ⟨_, _, rfl, rfl, merged⟩

theorem distinctKeys_of_said? {entries found : Entries} {field : Field}
    (keyed : (Value.map entries).WellKeyed) (said : said? field entries = some (.map found)) :
    Value.DistinctKeys found := by
  obtain ⟨entry, first, value_eq⟩ := Option.map_eq_some_iff.mp said
  cases keyed with
  | map _ each =>
      have inner := each entry (List.mem_of_find?_eq_some first)
      rw [value_eq] at inner
      cases inner with
      | map distinct _ => exact distinct

/-- Merging two layers over the standard configuration reads as the table of their values. -/
theorem ofEntries_deepMerge {lower upper : Entries} (lowerKeyed : (Value.map lower).WellKeyed)
    (upperKeyed : (Value.map upper).WellKeyed) (lowerOnce : SpelledOnce lower)
    (upperOnce : SpelledOnce upper) :
    ofEntries (deepMerge (deepMerge standard.toEntries (normalizeKeys lower))
      (normalizeKeys upper)) = ofEntries (layered lower upper) := by
  have merged : Holds (deepMerge (deepMerge standard.toEntries (normalizeKeys lower))
      (normalizeKeys upper)) (mergedValue lower upper) :=
    ((holds_table standard.fieldValue).deepMerge lowerOnce).deepMerge upperOnce
  refine merged.ofEntries_eq (holds_table (layeredValue lower upper))
    (fun field plain => alike_mergedValue lower upper plain) (AlikeWithin.readOverrides_eq ?_)
  rw [layeredValue, if_pos rfl]
  exact alikeWithin_laidOver (fun _ => distinctKeys_of_said? lowerKeyed)
    fun _ => distinctKeys_of_said? upperKeyed

/-! ## Files -/

theorem wellKeyed_of_readFile {octets : List UInt8} {content : Value}
    (parsed : readFile octets = .ok content) : content.WellKeyed := by
  rw [readFile.eq_def] at parsed
  split at parsed
  · contradiction
  · exact Yaml.wellKeyed_of_read parsed

theorem wellKeyed_of_contentOf {store : Store} {path : Path} {content : Value}
    (holds : contentOf store path = .ok content) : content.WellKeyed := by
  cases read : store.read path with
  | error cause =>
      rw [contentOf, read] at holds
      contradiction
  | ok octets =>
      rw [contentOf_eq read] at holds
      cases parsed : Readers.usual.file octets with
      | error fault =>
          rw [parsed] at holds
          contradiction
      | ok value =>
          rw [parsed] at holds
          obtain rfl := Except.ok.inj holds
          exact wellKeyed_of_readFile parsed

theorem wellKeyed_of_ofManifest {content held : Value} (keyed : content.WellKeyed)
    (holds : ofManifest content = .ok held) : held.WellKeyed := by
  unfold ofManifest at holds
  split at holds
  · obtain rfl := Except.ok.inj holds
    exact .scalar .null
  · cases content with
    | scalar | list => contradiction
    | map entries =>
        obtain rfl := Except.ok.inj holds
        cases found : Value.find? (.str manifestKey) entries with
        | none => exact .scalar .null
        | some value => exact keyed.of_find? found

/-- What loading a file gives is a mapping that the file or the manifest in it holds, or nothing. -/
theorem exists_of_loadFile {store : Store} {path : Path} {entries : Entries}
    (loaded : loadFile store path = .ok entries) :
    ∃ content held, contentOf store path = .ok content ∧
      (held = content ∨ ofManifest content = .ok held) ∧ (entries = [] ∨ held = .map entries) := by
  rw [loadFile] at loaded
  cases content_eq : contentOf store path with
  | error fault =>
      rw [content_eq] at loaded
      contradiction
  | ok content =>
      simp only [content_eq, bind, Except.bind] at loaded
      split at loaded
      · cases held_eq : ofManifest content with
        | error fault =>
            rw [held_eq] at loaded
            contradiction
        | ok held =>
            rw [held_eq] at loaded
            refine ⟨content, held, rfl, .inr held_eq, ?_⟩
            dsimp only at loaded
            split at loaded
            · exact .inl (Except.ok.inj loaded).symm
            · exact .inr (congrArg Value.map (Except.ok.inj loaded))
            · contradiction
      · refine ⟨content, content, rfl, .inl rfl, ?_⟩
        split at loaded
        · exact .inl (Except.ok.inj loaded).symm
        · exact .inr (congrArg Value.map (Except.ok.inj loaded))
        · contradiction

/-- The keys of a mapping that a file holds are different. -/
theorem wellKeyed_of_loadFile {store : Store} {path : Path} {entries : Entries}
    (loaded : loadFile store path = .ok entries) : (Value.map entries).WellKeyed := by
  obtain ⟨content, held, content_eq, held_eq, entries_eq⟩ := exists_of_loadFile loaded
  have contentKeyed := wellKeyed_of_contentOf content_eq
  have heldKeyed : held.WellKeyed := by
    rcases held_eq with rfl | held_eq
    · exact contentKeyed
    · exact wellKeyed_of_ofManifest contentKeyed held_eq
  rcases entries_eq with rfl | rfl
  · exact .map List.Pairwise.nil (List.forall_mem_nil _)
  · exact heldKeyed

theorem AtHome.wellKeyed {store : Store} {entries : Entries} (atHome : AtHome store entries) :
    (Value.map entries).WellKeyed := by
  cases atHome with
  | absent | ignored => exact .map List.Pairwise.nil (List.forall_mem_nil _)
  | loaded _ read => exact wellKeyed_of_loadFile read

theorem InProject.wellKeyed {store : Store} {start : Path} {given : Option String}
    {entries : Entries} (inProject : InProject store start given entries) :
    (Value.map entries).WellKeyed := by
  cases inProject with
  | absent => exact .map List.Pairwise.nil (List.forall_mem_nil _)
  | loaded _ read => exact wellKeyed_of_loadFile read

theorem deepMerge_normalizeKeys_nil (base : Entries) : deepMerge base (normalizeKeys []) = base := by
  rw [normalizeKeys, List.map_nil, Value.ofEntries, List.foldl_nil, deepMerge]

theorem AtHome.homeLayer_outcome {store : Store} {entries : Entries}
    (atHome : AtHome store entries) :
    (homeLayer store).outcome = .ok (deepMerge standard.toEntries (normalizeKeys entries)) := by
  rw [homeLayer, ← homePath]
  cases atHome with
  | absent missing =>
      simp only [missing, Bool.false_eq_true, if_false, deepMerge_normalizeKeys_nil]
      rfl
  | @ignored fault present failed reported =>
      have laid : layFile store standard.toEntries (homePath store) = .error fault := by
        rw [layFile, failed]
        rfl
      simp only [present, if_true, laid, reported, deepMerge_normalizeKeys_nil]
  | loaded present read =>
      have laid : layFile store standard.toEntries (homePath store) =
          .ok (deepMerge standard.toEntries (normalizeKeys entries)) := by
        rw [layFile, read]
        rfl
      simp only [present, if_true, laid]
      rfl

theorem InProject.projectLayer_outcome {store : Store} {start : Path} {given : Option String}
    {entries : Entries} (inProject : InProject store start given entries) (base : Entries) :
    (projectLayer store start given base).outcome =
      .ok (deepMerge base (normalizeKeys entries)) := by
  rw [projectLayer]
  cases inProject with
  | absent missing => simp only [missing, deepMerge_normalizeKeys_nil]
  | loaded found read =>
      simp only [found, layFile, read]
      rfl

theorem resolve_congr {entries others : Entries} (same : ofEntries entries = ofEntries others) :
    resolve entries = resolve others := by
  unfold resolve
  rw [same]

/-- Loading reads what the layers make, merged one after the other. -/
theorem load_outcome_of_layers {store : Store} {start : Path} {given : Option String}
    {lower upper : Entries} (atHome : AtHome store lower)
    (inProject : InProject store start given upper) :
    (load store start given).outcome =
      resolve (deepMerge (deepMerge standard.toEntries (normalizeKeys lower))
        (normalizeKeys upper)) := by
  rw [load]
  simp only [atHome.homeLayer_outcome, inProject.projectLayer_outcome]
  rfl

/-- Loading gives what the table of all fields gives, in which the project comes before home and home
before the standard configuration, and the severities of kinds are taken key by key.  Other spellings of
the keys give the same. -/
theorem load_eq_resolve_layered {store : Store} {start : Path} {given : Option String}
    {lower upper : Entries} (atHome : AtHome store lower)
    (inProject : InProject store start given upper) (lowerOnce : SpelledOnce lower)
    (upperOnce : SpelledOnce upper) :
    (load store start given).outcome = resolve (layered lower upper) ∧
      (∀ known changed, said? .severityOverrides lower = some (.map known) →
        said? .severityOverrides upper = some (.map changed) →
        layeredValue lower upper .severityOverrides = .map (keyByKey known changed) ∧
          ∀ key, Value.find? key (keyByKey known changed) =
            (Value.find? key changed).or (Value.find? key known)) ∧
      ∀ (store' : Store) (start' : Path) (given' : Option String) (lower' upper' : Entries),
        AtHome store' lower' → InProject store' start' given' upper' →
        Respelled lower lower' → Respelled upper upper' →
        (load store' start' given').outcome = (load store start given).outcome := by
  have outcome := load_outcome_of_layers atHome inProject
  refine ⟨?_, fun known changed below above => ⟨?_, fun key => ?_⟩, ?_⟩
  · exact outcome.trans (resolve_congr
      (ofEntries_deepMerge atHome.wellKeyed inProject.wellKeyed lowerOnce upperOnce))
  · rw [layeredValue, if_pos rfl, below, above]
    rfl
  · exact find?_keyByKey (distinctKeys_of_said? atHome.wellKeyed below)
      (distinctKeys_of_said? inProject.wellKeyed above) key
  · intro store' start' given' lower' upper' atHome' inProject' lowerSame upperSame
    rw [load_outcome_of_layers atHome' inProject', outcome, lowerSame.normalizeKeys_eq,
      upperSame.normalizeKeys_eq]

/-- A home and a project whose files spell their keys in different ways. -/
def spelledApart : Store :=
  ⟨"/", ["work"], ["home"],
    [(["work"], .folder),
      (["work", "codegateway.yaml"], .file (Text.encode
        "minSeverity: info\nseverity_overrides: \x7bunsafe_eval: info\x7d".toList)),
      (["home"], .folder), (["home", ".codegateway"], .folder),
      (["home", ".codegateway", "config.yaml"], .file (Text.encode
        ("min_severity: critical\n" ++
          "severityOverrides: \x7bunsafe_eval: warning, magic_number: info\x7d").toList))]⟩

/-- The entries of a file, or none. -/
def entriesOf (store : Store) (path : Path) : Entries := (loadFile store path).toOption.getD []

theorem loadFile_eq_entriesOf {store : Store} {path : Path}
    (loads : (loadFile store path).toOption.isSome = true) :
    loadFile store path = .ok (entriesOf store path) := by
  rw [entriesOf]
  cases loaded : loadFile store path with
  | ok entries => rfl
  | error fault =>
      rw [loaded] at loads
      exact absurd loads Bool.false_ne_true

/-- The project decides on the severity from which findings count and on that of one kind, and home on
that of another kind. -/
theorem load_spelledApart :
    (load spelledApart .here none).outcome = resolve (layered
        (entriesOf spelledApart (homePath spelledApart))
        (entriesOf spelledApart (spelledApart.pathOf ["work", "codegateway.yaml"]))) ∧
      ((load spelledApart .here none).outcome.toOption.map fun config =>
          (config.minSeverity, config.severityOverrides)) =
        some (.info, [(.unsafeEval, .info), (.magicNumber, .info)]) := by
  have home : (loadFile spelledApart (homePath spelledApart)).toOption.isSome = true ∧
      ∀ field ∈ Field.all, ((entriesOf spelledApart (homePath spelledApart)).filter
        fun entry => field.isSpelledBy entry.1).length ≤ 1 := by decide +kernel
  have project : (loadFile spelledApart
        (spelledApart.pathOf ["work", "codegateway.yaml"])).toOption.isSome = true ∧
      ∀ field ∈ Field.all, ((entriesOf spelledApart
        (spelledApart.pathOf ["work", "codegateway.yaml"])).filter
        fun entry => field.isSpelledBy entry.1).length ≤ 1 := by decide +kernel
  have atHome := AtHome.loaded (by decide +kernel) (loadFile_eq_entriesOf home.1)
  have inProject : InProject spelledApart .here none _ :=
    .loaded (by decide +kernel) (loadFile_eq_entriesOf project.1)
  exact ⟨(load_eq_resolve_layered atHome inProject (fun field => home.2 field field.mem_all)
    fun field => project.2 field field.mem_all).1, by decide +kernel⟩

end Config
end Hazard
