/-! Events that the service reports to its operator. -/
namespace Gatehouse

inductive Level
  | warn
  | error
  deriving DecidableEq, Repr

def Level.name : Level → String
  | .warn => "warn"
  | .error => "error"

/-- A message with named details. -/
structure Event where
  level : Level
  message : String
  fields : List (String × String)
  deriving DecidableEq, Repr

def Event.warn (message : String) (fields : List (String × String)) : Event :=
  ⟨.warn, message, fields⟩

def Event.error (message : String) (fields : List (String × String)) : Event :=
  ⟨.error, message, fields⟩

end Gatehouse
