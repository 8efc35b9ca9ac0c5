import Hazard.Data.Read
import Hazard.Finding.Kind
import Hazard.Vocabulary

/-!
Configurations, and how they are read from mappings and written as such. Every field has two
spellings, of which the one with capital letters is looked up first.
-/

namespace Hazard

/-- What decides how files are analyzed and findings are reported. -/
structure Config where
  /-- The kinds of findings to look for. -/
  enabledKinds : List Kind
  /-- The least severity to report. -/
  minSeverity : Severity
  /-- Severities that findings get by their kind. -/
  severityOverrides : List (Kind × Severity)
  /-- Patterns of the files to leave out. -/
  exclude : List String
  /-- Additions to the vocabulary. -/
  extensions : Extensions
  /-- Whether critical findings block. -/
  blockOnCritical : Bool
  /-- Whether warnings block. -/
  blockOnWarning : Bool
  /-- Whether the checkpoint is shown. -/
  showCheckpoint : Bool
  /-- Whether hints are shown in the text. -/
  showInlineHints : Bool
  /-- How long to wait for further changes, in milliseconds. -/
  debounceMs : Int
  /-- Whether a file is analyzed when it is opened. -/
  analyzeOnOpen : Bool
  /-- Whether a file is analyzed when it is saved. -/
  analyzeOnSave : Bool
deriving DecidableEq, Repr

/-- The entries of a mapping. -/
abbrev Entries := List (Scalar × Value)

namespace Config

/-- Files that are left out if nothing else is said. -/
def builtinExclude : List String :=
  ["**/node_modules/**", "**/dist/**", "**/build/**", "**/.git/**", "**/*.min.js", "**/*.bundle.js"]

/-- The configuration if nothing is said. -/
def standard : Config :=
  { enabledKinds := Kind.all
    minSeverity := .info
    severityOverrides := []
    exclude := builtinExclude
    extensions := {}
    blockOnCritical := true
    blockOnWarning := false
    showCheckpoint := true
    showInlineHints := true
    debounceMs := 500
    analyzeOnOpen := true
    analyzeOnSave := true }

/-- The fields of a configuration. -/
inductive Field where
  | enabledPatterns
  | minSeverity
  | severityOverrides
  | exclude
  | genericVariableNames
  | loopVariableNames
  | coordinateVariableNames
  | genericErrorMessages
  | secretPatterns
  | blockOnCritical
  | blockOnWarning
  | showCheckpoint
  | showInlineHints
  | debounceMs
  | analyzeOnOpen
  | analyzeOnSave
deriving DecidableEq, Repr

namespace Field

/-- The fields, in order. -/
def all : List Field :=
  [.enabledPatterns, .minSeverity, .severityOverrides, .exclude, .genericVariableNames,
    .loopVariableNames, .coordinateVariableNames, .genericErrorMessages, .secretPatterns,
    .blockOnCritical, .blockOnWarning, .showCheckpoint, .showInlineHints, .debounceMs,
    .analyzeOnOpen, .analyzeOnSave]

/-- The name of a field. -/
def name : Field → String
  | .enabledPatterns => "enabled_patterns"
  | .minSeverity => "min_severity"
  | .severityOverrides => "severity_overrides"
  | .exclude => "exclude"
  | .genericVariableNames => "generic_variable_names"
  | .loopVariableNames => "loop_variable_names"
  | .coordinateVariableNames => "coordinate_variable_names"
  | .genericErrorMessages => "generic_error_messages"
  | .secretPatterns => "secret_patterns"
  | .blockOnCritical => "block_on_critical"
  | .blockOnWarning => "block_on_warning"
  | .showCheckpoint => "show_checkpoint"
  | .showInlineHints => "show_inline_hints"
  | .debounceMs => "debounce_ms"
  | .analyzeOnOpen => "analyze_on_open"
  | .analyzeOnSave => "analyze_on_save"

/-- The name with a capital letter for every underscore. -/
def camel : Field → String
  | .enabledPatterns => "enabledPatterns"
  | .minSeverity => "minSeverity"
  | .severityOverrides => "severityOverrides"
  | .exclude => "exclude"
  | .genericVariableNames => "genericVariableNames"
  | .loopVariableNames => "loopVariableNames"
  | .coordinateVariableNames => "coordinateVariableNames"
  | .genericErrorMessages => "genericErrorMessages"
  | .secretPatterns => "secretPatterns"
  | .blockOnCritical => "blockOnCritical"
  | .blockOnWarning => "blockOnWarning"
  | .showCheckpoint => "showCheckpoint"
  | .showInlineHints => "showInlineHints"
  | .debounceMs => "debounceMs"
  | .analyzeOnOpen => "analyzeOnOpen"
  | .analyzeOnSave => "analyzeOnSave"

/-- The check of a field of a mapping. -/
def read {α : Type} (field : Field) (check : Value → Checked α) (absent : α) (entries : Entries) :
    Checked α :=
  Read.field [field.camel, field.name] check (some absent) entries

end Field

/-- A list of texts. -/
def texts : Value → Checked (List String) := Read.list Read.string

/-- Reads a configuration off the entries of a mapping; what is not said stays as it is without
any configuration, and unknown keys do not matter. -/
def ofEntries (entries : Entries) : Checked Config :=
  let words (names loops coordinates messages secrets : List String) : Extensions :=
    ⟨names, loops, coordinates, messages, secrets⟩
  let build (kinds : List Kind) (severity : Severity) (overrides : List (Kind × Severity))
      (exclude : List String) (names loops coordinates messages secrets : List String)
      (critical warning checkpoint hints : Bool) (debounce : Int) (onOpen onSave : Bool) : Config :=
    ⟨kinds, severity, overrides, exclude, words names loops coordinates messages secrets, critical,
      warning, checkpoint, hints, debounce, onOpen, onSave⟩
  Checked.start build
    |>.both (Field.enabledPatterns.read (Read.list (Read.named Kind.ofName?))
      standard.enabledKinds entries)
    |>.both (Field.minSeverity.read (Read.named Severity.ofName?) standard.minSeverity entries)
    |>.both (Field.severityOverrides.read
      (Read.map (Read.named Kind.ofName?) (Read.named Severity.ofName?))
      standard.severityOverrides entries)
    |>.both (Field.exclude.read texts standard.exclude entries)
    |>.both (Field.genericVariableNames.read texts [] entries)
    |>.both (Field.loopVariableNames.read texts [] entries)
    |>.both (Field.coordinateVariableNames.read texts [] entries)
    |>.both (Field.genericErrorMessages.read texts [] entries)
    |>.both (Field.secretPatterns.read texts [] entries)
    |>.both (Field.blockOnCritical.read Read.bool standard.blockOnCritical entries)
    |>.both (Field.blockOnWarning.read Read.bool standard.blockOnWarning entries)
    |>.both (Field.showCheckpoint.read Read.bool standard.showCheckpoint entries)
    |>.both (Field.showInlineHints.read Read.bool standard.showInlineHints entries)
    |>.both (Field.debounceMs.read Read.int standard.debounceMs entries)
    |>.both (Field.analyzeOnOpen.read Read.bool standard.analyzeOnOpen entries)
    |>.both (Field.analyzeOnSave.read Read.bool standard.analyzeOnSave entries)

/-- Reads a configuration off a value, which has to be a mapping. -/
def ofValue : Value → Checked Config
  | .map entries => ofEntries entries
  | _ => Checked.issue .modelType

/-- A list of texts as a value. -/
def textsValue (list : List String) : Value := .list (list.map .str)

/-- The value of a field. -/
def fieldValue (config : Config) : Field → Value
  | .enabledPatterns => .list (config.enabledKinds.map fun kind => .str kind.name)
  | .minSeverity => .str config.minSeverity.name
  | .severityOverrides =>
    .map (config.severityOverrides.map fun (kind, severity) => (.str kind.name, .str severity.name))
  | .exclude => textsValue config.exclude
  | .genericVariableNames => textsValue config.extensions.genericNames
  | .loopVariableNames => textsValue config.extensions.loopNames
  | .coordinateVariableNames => textsValue config.extensions.coordinateNames
  | .genericErrorMessages => textsValue config.extensions.errorMessages
  | .secretPatterns => textsValue config.extensions.secretPatterns
  | .blockOnCritical => .bool config.blockOnCritical
  | .blockOnWarning => .bool config.blockOnWarning
  | .showCheckpoint => .bool config.showCheckpoint
  | .showInlineHints => .bool config.showInlineHints
  | .debounceMs => .int config.debounceMs
  | .analyzeOnOpen => .bool config.analyzeOnOpen
  | .analyzeOnSave => .bool config.analyzeOnSave

/-- The configuration as the entries of a mapping. -/
def toEntries (config : Config) : Entries :=
  Field.all.map fun field => (.str field.name, config.fieldValue field)

end Config

/-- Reads vocabulary extensions off a value. -/
def Extensions.ofValue : Value → Checked Extensions
  | .map entries =>
    let read (field : Config.Field) : Checked (List String) :=
      Read.field [field.name] (Read.tuple Read.string) (some []) entries
    Checked.start Extensions.mk
      |>.both (read .genericVariableNames)
      |>.both (read .loopVariableNames)
      |>.both (read .coordinateVariableNames)
      |>.both (read .genericErrorMessages)
      |>.both (read .secretPatterns)
  | _ => Checked.issue .modelType

end Hazard
