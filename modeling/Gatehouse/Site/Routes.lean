import Gatehouse.Pipeline.Stages
import Gatehouse.Site.Handlers

/-! Which paths the service has, and what stands before the handler of each. A path matches as a
whole. A request for any other path is not found, and no stage sees it. -/
namespace Gatehouse.Site

structure Route where
  path : String
  /-- Only `GET` and `HEAD` reach the handler. -/
  isReadOnly : Bool
  serve : Http.Request → Program Answer

def isReading (request : Http.Request) : Bool :=
  request.method == "GET" || request.method == "HEAD"

/-- Turns other methods away, where the handler would stand. -/
def readOnly (handler : Handler) : Handler := fun request context =>
  if isReading request then handler request context
  else .done (.ok (.bare 405))

/-- A handler with no stage before it. -/
def unguarded (handler : Handler) (request : Http.Request) : Program Answer :=
  (handler request .fresh).toProgram

/-- The paths of the service. -/
def application (gate : Gate) : List Route :=
  [⟨"/health", true, unguarded (readOnly health)⟩,
   ⟨"/api/v1/tenant", true, Pipeline.apply gate .everyone (readOnly (currentTenant gate))⟩,
   ⟨"/api/v1/me", true, Pipeline.apply gate .bearer (readOnly me)⟩]

/-- The route of a request. -/
def find? (routes : List Route) (request : Http.Request) : Option Route :=
  routes.find? fun route => route.path.toList == request.target.path

/-- What the routes make of a request. -/
def dispatch (routes : List Route) (request : Http.Request) : Program Answer :=
  match find? routes request with
  | none => .done (.ok (.bare 404))
  | some route => route.serve request

end Gatehouse.Site
