import Gatehouse.Program

/-! Work on the transaction of a request through its handle: locking, taking it out, rolling it
back and letting it go, and what is cleared away when a request is dropped. -/
namespace Gatehouse

namespace Program

/-- Waits for the lock of the transaction and looks whether the transaction is still there. -/
def lockTransaction : Program (Except Database.Error Unit) := do
  call .untilFree
  let handle ← look
  pure (if handle.slot.isOpen then .ok () else .error .finalized)

/-- Takes the transaction out of the slot, as soon as nobody works on it. -/
def takeTransaction : Program (Option Unit) := do
  call .untilFree
  .visit (fun handle => { handle with slot := handle.slot.take.2 }) fun handle =>
    .done handle.slot.take.1

/-- Rolls a transaction back; a failure is reported. -/
def rollBack (cause : String) : Program Unit := do
  match ← call .rollback with
  | .ok () => pure ()
  | .error error =>
    report (.error "rollback failed" [("error", error.message), ("cause", cause)])

/-- Lets go of the transaction in the slot, unless a clone of the handle still holds it. -/
def letGoUnlessKept : Program Unit := do
  let handle ← look
  if handle.slot.isOpen && !handle.isKept then
    change fun handle => { handle with slot := handle.slot.take.2 }
    call .letGo

end Program

namespace Hold

def droppedEvent (tenant : String) : Event :=
  .warn "request dropped with open transaction" [("tenant_id", tenant)]

def noRuntimeEvent (tenant : String) : Event :=
  .warn "no runtime available; transaction released without explicit rollback"
    [("tenant_id", tenant)]

/-- Clears one thing away. The duty to roll back needs somewhere to run: without a runtime the
transaction is let go as it is. -/
def clear (runtime : Bool) : Hold → Program Unit
  | .transaction => Program.call .letGo
  | .rollback tenant =>
    if runtime then do
      match ← Program.takeTransaction with
      | none => pure ()
      | some () => do
        Program.report (droppedEvent tenant)
        Program.rollBack "cancelled"
    else do
      Program.report (noRuntimeEvent tenant)
      Program.letGoUnlessKept

/-- Clears things away in order. -/
def clearAll (runtime : Bool) : List Hold → Program Unit
  | [] => pure ()
  | hold :: rest => do
    hold.clear runtime
    clearAll runtime rest

end Hold

end Gatehouse
