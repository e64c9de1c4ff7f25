/-! What can go wrong with the key-value store. -/
namespace Gatehouse.Store

inductive Error
  | connection (detail : String)
  | command (detail : String)
  | value (detail : String)
  deriving DecidableEq, Repr

def Error.message : Error → String
  | .connection detail => s!"cache connection error: {detail}"
  | .command detail => s!"cache command error: {detail}"
  | .value detail => s!"cache value error: {detail}"

end Gatehouse.Store
