import Gatehouse.Call
import Gatehouse.Database.Slot
import Gatehouse.Log

/-! Programs: trees of calls to the surroundings, each with a continuation for every answer. A
program also reports events and works on the slot of the request's transaction. A call carries
what the program has in its hands while it waits, because a request can be dropped there. -/
namespace Gatehouse

/-- The handle to the transaction of a request, as far as the request can see it. -/
structure Handle where
  slot : Database.Slot Unit
  /-- A clone of the handle outlives the request. -/
  isKept : Bool
  deriving DecidableEq, Repr

def Handle.none : Handle := ⟨.empty, false⟩

/-- What has to be cleared away if a request is dropped. -/
inductive Hold
  /-- An open transaction that is not in the slot. -/
  | transaction
  /-- The duty to roll back the transaction in the slot, which is bound to a tenant. -/
  | rollback (tenant : String)
  deriving DecidableEq, Repr

inductive Program (α : Type)
  | done (value : α)
  | log (event : Event) (rest : Program α)
  /-- Changes the handle and goes on with what it was before. -/
  | visit (change : Handle → Handle) (next : Handle → Program α)
  | ask (call : Call) (holds : List Hold) (next : call.Answer → Program α)

namespace Program

variable {α β : Type}

def bind : Program α → (α → Program β) → Program β
  | .done value, f => f value
  | .log event rest, f => .log event (rest.bind f)
  | .visit change next, f => .visit change fun handle => (next handle).bind f
  | .ask call holds next, f => .ask call holds fun answer => (next answer).bind f

instance : Monad Program where
  pure := .done
  bind := Program.bind

/-- A call with nothing in hand. -/
def call (call : Call) : Program call.Answer :=
  .ask call [] .done

def report (event : Event) : Program Unit :=
  .log event (.done ())

def look : Program Handle :=
  .visit id .done

def change (f : Handle → Handle) : Program Unit :=
  .visit f fun _ => .done ()

/-- The program with something in hand throughout; what the program itself holds is cleared
away first. -/
def holding (hold : Hold) : Program α → Program α
  | .done value => .done value
  | .log event rest => .log event (rest.holding hold)
  | .visit change next => .visit change fun handle => (next handle).holding hold
  | .ask call holds next => .ask call (holds ++ [hold]) fun answer => (next answer).holding hold

theorem bind_done (p : Program α) : p.bind .done = p := by
  induction p with
  | done value => rfl
  | log event rest ih => simp [bind, ih]
  | visit change next ih => simp [bind, ih]
  | ask call holds next ih => simp [bind, ih]

theorem bind_assoc {γ : Type} (p : Program α) (f : α → Program β) (g : β → Program γ) :
    (p.bind f).bind g = p.bind fun value => (f value).bind g := by
  induction p with
  | done value => rfl
  | log event rest ih => simp [bind, ih]
  | visit change next ih => simp [bind, ih]
  | ask call holds next ih => simp [bind, ih]

end Program

end Gatehouse
