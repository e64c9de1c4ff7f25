/-! What can go wrong with a database transaction. -/
namespace Gatehouse.Database

inductive Error
  | begin (detail : String)
  | statement (detail : String)
  | commit (detail : String)
  | rollback (detail : String)
  /-- The transaction has been committed or rolled back before. -/
  | finalized
  deriving DecidableEq, Repr

def Error.message : Error → String
  | .begin detail => s!"begin failed: {detail}"
  | .statement detail => s!"statement failed: {detail}"
  | .commit detail => s!"commit failed: {detail}"
  | .rollback detail => s!"rollback failed: {detail}"
  | .finalized => "transaction already finalized"

end Gatehouse.Database
