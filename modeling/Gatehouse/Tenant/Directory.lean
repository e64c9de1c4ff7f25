/-! Tenants, and why one may not be found. -/
namespace Gatehouse

/-- The tenant that a request is for. -/
structure Tenant where
  id : String
  domain : String
  deriving DecidableEq, Repr

namespace Tenant

inductive LookupError
  | notFound (domain : String)
  | backend (detail : String)
  deriving DecidableEq, Repr

def LookupError.message : LookupError → String
  | .notFound domain => s!"no tenant mapped to domain `{domain}`"
  | .backend detail => s!"tenant lookup failed: {detail}"

end Tenant

end Gatehouse
