import Gatehouse.Site.Routes

/-! Ways to put stages before a handler that is to be tried out. -/
namespace Gatehouse.Rehearsal

/-- One of the stages that a request goes through. -/
inductive Stage
  | tenant
  | rateLimit
  | authorization
  | isolation
  deriving DecidableEq, Repr

inductive Arrangement
  /-- The paths of the service; no handler is tried out. -/
  | application
  /-- All stages. -/
  | guarded (access : Pipeline.Access)
  /-- Only one stage. -/
  | behind (stage : Stage) (access : Pipeline.Access)
  /-- No stage. -/
  | unguarded
  deriving DecidableEq, Repr

/-- A handler behind one stage alone. -/
def Stage.apply (stage : Stage) (gate : Gate) (access : Pipeline.Access) (handler : Handler)
    (request : Http.Request) : Program Answer :=
  let inner := fun context => (handler request context).toProgram
  match stage with
  | .tenant => Pipeline.resolveTenant gate request .fresh inner
  | .rateLimit => Pipeline.limitRate gate request .fresh inner
  | .authorization => Pipeline.authorize gate access request .fresh inner
  | .isolation => Pipeline.isolate gate .fresh (handler request)

/-- The path at which a handler is tried out. -/
def path : String := "/h"

/-- The routes of an arrangement, with the handler that is tried out. -/
def Arrangement.routes (arrangement : Arrangement) (gate : Gate) (handler : Handler) :
    List Site.Route :=
  match arrangement with
  | .application => Site.application gate
  | .guarded access => [⟨path, false, Pipeline.apply gate access handler⟩]
  | .behind stage access => [⟨path, false, stage.apply gate access handler⟩]
  | .unguarded => [⟨path, false, Site.unguarded handler⟩]

end Gatehouse.Rehearsal
