import Gatehouse.Run

/-! Clones of transaction handles that outlive their requests. The transaction goes on for as
long as a clone holds it and nobody finishes it; when the last clone goes, it is let go. -/
namespace Gatehouse.Rehearsal

/-- The clone that was kept last. -/
structure Kept where
  tenant : String
  /-- The transaction of the clone has not been finished. -/
  isOpen : Bool
  deriving DecidableEq, Repr

namespace Kept

/-- What comes of locking the clone's transaction. -/
def lock (kept : Kept) : Except Database.Error Unit :=
  if kept.isOpen then .ok () else .error .finalized

/-- The trace of a request, with the end of the transaction of the old clone where a new clone
takes its place. -/
def replaceIn (kept : Option Kept) : List Entry → List Entry
  | [] => []
  | entry :: rest =>
    if entry.kept?.isSome && kept.any Kept.isOpen then
      .answered .letGo () :: entry :: rest
    else entry :: replaceIn kept rest

/-- The clone that is kept after a request that left the handle like this. -/
def after (kept : Option Kept) (handle : Handle) (trace : List Entry) : Option Kept :=
  match (trace.filterMap Entry.kept?).getLast? with
  | some tenant => some ⟨tenant, handle.slot.isOpen⟩
  | none => kept

end Kept

end Gatehouse.Rehearsal
