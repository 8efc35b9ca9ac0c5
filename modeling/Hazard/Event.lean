/-!
What is noted while files are analyzed and configurations are read.
-/

namespace Hazard

/-- How much a note matters. -/
inductive Level where
  | debug
  | info
  | warning
  | error
deriving DecidableEq, Repr

/-- The name of a level. -/
def Level.name : Level → String
  | .debug => "debug"
  | .info => "info"
  | .warning => "warning"
  | .error => "error"

/-- A note. -/
inductive Event where
  | fileExcluded (file : String)
  | detectorFailed (detector file : String)
  | secretPatternRejected (pattern : String)
  | configLoaded (path : String)
  | manifestUnreadable (path : String)
  | globalConfigIgnored (path : String)
deriving DecidableEq, Repr

namespace Event

/-- The level of a note. -/
def level : Event → Level
  | .fileExcluded _ => .debug
  | .detectorFailed _ _ => .error
  | .secretPatternRejected _ => .warning
  | .configLoaded _ => .info
  | .manifestUnreadable _ => .debug
  | .globalConfigIgnored _ => .warning

/-- What a note is called. -/
def name : Event → String
  | .fileExcluded _ => "file_excluded"
  | .detectorFailed _ _ => "detector_failed"
  | .secretPatternRejected _ => "invalid_secret_pattern"
  | .configLoaded _ => "config_loaded"
  | .manifestUnreadable _ => "package_json_unreadable"
  | .globalConfigIgnored _ => "global_config_ignored"

/-- The details of a note, by name. -/
def details : Event → List (String × String)
  | .fileExcluded file => [("file", file)]
  | .detectorFailed detector file => [("detector", detector), ("file", file)]
  | .secretPatternRejected pattern => [("pattern", pattern)]
  | .configLoaded path => [("path", path)]
  | .manifestUnreadable path => [("path", path)]
  | .globalConfigIgnored path => [("path", path)]

end Event

/-- An outcome with the notes that were taken on the way to it. -/
structure Noted (α : Type) where
  outcome : α
  events : List Event
deriving Repr

namespace Noted

/-- An outcome without notes. -/
def plain {α : Type} (outcome : α) : Noted α := ⟨outcome, []⟩

/-- More notes before those of an outcome. -/
def after {α : Type} (events : List Event) (noted : Noted α) : Noted α :=
  ⟨noted.outcome, events ++ noted.events⟩

end Noted

end Hazard
