/-!
Severities and their order.
-/

namespace Hazard

/-- How much a finding matters. -/
inductive Severity where
  | info
  | warning
  | critical
deriving DecidableEq, Repr

namespace Severity

/-- The severities, least first. -/
def all : List Severity := [.info, .warning, .critical]

/-- The name of a severity. -/
def name : Severity → String
  | .info => "info"
  | .warning => "warning"
  | .critical => "critical"

/-- The severity of a name. -/
def ofName? (text : String) : Option Severity := all.find? (·.name == text)

/-- The place of a severity in the order. -/
def rank : Severity → Nat
  | .info => 0
  | .warning => 1
  | .critical => 2

/-- Negative when the first severity is to be listed before the second, positive when after. -/
def listingOrder (a b : Severity) : Int := (b.rank : Int) - a.rank

/-- The severity is at least the threshold. -/
def meets (severity threshold : Severity) : Bool := threshold.rank ≤ severity.rank

end Severity

end Hazard
