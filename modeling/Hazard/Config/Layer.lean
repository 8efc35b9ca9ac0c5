import Hazard.Config.Basic

/-!
Layering of configurations: one spelling for every key, later mappings over earlier ones, and changes
to a configuration that is already read.
-/

namespace Hazard.Config

/-- The key with the name of the field that it spells. -/
def canonicalKey : Scalar → Scalar
  | .str key =>
    match Field.all.find? fun field => field.camel == key with
    | some field => .str field.name
    | none => .str key
  | key => key

/-- The entries with one spelling for every field; of two spellings the later value counts. -/
def normalizeKeys (entries : Entries) : Entries :=
  Value.ofEntries (entries.map fun (key, value) => (canonicalKey key, value))

mutual

/-- The value that stands where one value is laid over another, which may be absent. -/
def mergeValue (base : Option Value) : Value → Value
  | .map entries =>
    match base with
    | some (.map known) => .map (deepMerge known entries)
    | _ => .map entries
  | value => value

/-- Lays entries over others: mappings are merged, all else is replaced. -/
def deepMerge (base : Entries) : Entries → Entries
  | [] => base
  | (key, value) :: rest =>
    deepMerge (Value.put key (mergeValue (Value.find? key base) value) base) rest

end

mutual

/-- How many mergings go on within one another where one value is laid over another. -/
def mergeValueDepth (base : Option Value) : Value → Nat
  | .map entries =>
    match base with
    | some (.map known) => mergeDepth known entries
    | _ => 0
  | _ => 0

/-- How many mergings go on within one another when entries are laid over others. -/
def mergeDepth (base : Entries) : Entries → Nat
  | [] => 1
  | (key, value) :: rest =>
    max (1 + mergeValueDepth (Value.find? key base) value)
      (mergeDepth (Value.put key (mergeValue (Value.find? key base) value) base) rest)

end

/-- Lays entries over others where only so many mergings may go on within one another; `none` is room
for all. -/
def mergeWithin? (room : Option Nat) (base entries : Entries) : Option Entries :=
  if room.any (· < mergeDepth base entries) then none else some (deepMerge base entries)

/-- Lays entries over others, each as a whole. -/
def overlay (base changes : Entries) : Entries :=
  changes.foldl (fun known entry => Value.put entry.1 entry.2 known) base

/-- The configuration with some of its fields changed. -/
def change (config : Config) (changes : Entries) : Checked Config :=
  ofEntries (overlay config.toEntries (normalizeKeys changes))

/-- What one call says about the configuration. -/
inductive Override where
  /-- Some fields, over the ones in force. -/
  | fields (changes : Entries)
  /-- A configuration in place of the one in force. -/
  | whole (config : Config)
deriving Repr

/-- The configuration of one call. -/
def withOverride (config : Config) : Option Override → Checked Config
  | none => .ok config
  | some (.fields changes) => config.change changes
  | some (.whole other) => .ok other

end Hazard.Config
