import BuildLauncher.Log.Template

/-!
# Log records

A record tells who reports an event and how grave it is.
-/
namespace BuildLauncher.Log

/-- How grave an event is, from the least to the most. -/
inductive Level
  | debug
  | info
  | warning
  | error
  | critical
deriving DecidableEq, Repr

namespace Level

def rank : Level → Nat
  | .debug => 10
  | .info => 20
  | .warning => 30
  | .error => 40
  | .critical => 50

def name : Level → String
  | .debug => "debug"
  | .info => "info"
  | .warning => "warning"
  | .error => "error"
  | .critical => "critical"

end Level

/-- An event that a logger reports, perhaps with named values. -/
structure Record where
  logger : String
  level : Level
  event : String
  fields : Fields

end BuildLauncher.Log
