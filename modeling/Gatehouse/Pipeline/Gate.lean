import Gatehouse.Clock
import Gatehouse.Database.Handle
import Gatehouse.Http.Message
import Gatehouse.RateLimit.Limiter
import Gatehouse.Refusal
import Gatehouse.Tenant.Dispatcher
import Gatehouse.Token.Service

/-! What the stages of the pipeline share, what they hand on, and what handlers can do. -/
namespace Gatehouse

/-- The settings and parts of the service that every request is served with. -/
structure Gate where
  key : Token.Key
  limiter : RateLimit.Limiter
  tenants : Tenant.Dispatcher
  /-- A cookie may hold the token if the authorization header is absent. -/
  cookieFallback : Bool
  /-- The session setting that the row policies of the database read. -/
  tenantSetting : String

def Gate.describe (gate : Gate) : String :=
  s!"AppState \x7b limiter: {gate.limiter.describe}, " ++
    s!"enable_cookie_token: {gate.cookieFallback}, " ++
    s!"rls_tenant_setting: {Text.quoted gate.tenantSetting}, .. \x7d"

/-- A request that has gone through some stages, with what these found out. -/
structure Context where
  tenant : Option Tenant
  claims : Option Token.Claims
  /-- The tenant that the transaction of the request is bound to, once there is one. -/
  transaction : Option String
  deriving DecidableEq, Repr

/-- The context of a request that no stage has seen. -/
def Context.fresh : Context := ⟨none, none, none⟩

/-- Code that could not go on, with its message if that is a text. -/
inductive Panic
  | text (message : String)
  | other
  deriving DecidableEq, Repr

/-- What comes back from a stage or a handler. -/
abbrev Answer := Except Panic Http.Response

def Answer.refuse (refusal : Refusal) : Answer :=
  .ok refusal.response

/-- The time at which a request is served. There is no going on without one. -/
def timeOf (request : Http.Request) : Except Panic Int :=
  (Clock.read request.now).mapError fun error => .text error.message

/-- The clock can be read from 1970 on, and up to the end of the calendar. -/
theorem timeOf_eq_ok {request : Http.Request}
    (hClock : 0 ≤ request.now ∧ request.now ≤ Clock.last) :
    timeOf request = .ok request.now := by
  rw [timeOf, Clock.read_eq_ok_iff.mpr ⟨rfl, hClock⟩]
  rfl

/-- There is no going on just outside of these bounds. -/
theorem timeOf_eq_error_iff {request : Http.Request} :
    (∃ panic, timeOf request = .error panic) ↔ request.now < 0 ∨ Clock.last < request.now := by
  unfold timeOf Clock.read
  split
  · next hEarly => exact ⟨fun _ => .inl hEarly, fun _ => ⟨_, rfl⟩⟩
  · next hEarly =>
    split
    · next hLate => exact ⟨fun _ => .inr hLate, fun _ => ⟨_, rfl⟩⟩
    · next hLate =>
      constructor
      · rintro ⟨panic, h⟩
        cases h
      · exact fun h => (h.elim hEarly hLate).elim

/-- Ends a request with a refusal. -/
def Program.refuse (refusal : Refusal) : Program Answer :=
  .done (Answer.refuse refusal)

/-- Why a session setting could not be read. -/
inductive SettingError
  | transaction (error : Database.Error)
  | query (detail : String)
  deriving DecidableEq, Repr

namespace SettingError

/-- What is said of a failure where details are not to be told. -/
def message : SettingError → String
  | .transaction error => error.message
  | .query _ => "db error"

/-- The detail of a query that should have found a row and found none. -/
def noRow : String :=
  "no rows returned by a query that expected to return at least one row"

end SettingError

/-- What a handler does: it runs statements on the transaction of its request, reads session
settings, waits and gives clones of its handle away. It cannot finish the transaction. -/
inductive Handling (α : Type)
  | done (value : α)
  | log (event : Event) (rest : Handling α)
  | execute (statement : String) (next : Except Database.Error Nat → Handling α)
  | readSetting (name : String) (next : Except SettingError (Option String) → Handling α)
  | keep (tenant : String) (rest : Handling α)
  | pause (duration : Duration) (rest : Handling α)

namespace Handling

variable {α β : Type}

def bind : Handling α → (α → Handling β) → Handling β
  | .done value, f => f value
  | .log event rest, f => .log event (rest.bind f)
  | .execute statement next, f => .execute statement fun answer => (next answer).bind f
  | .readSetting name next, f => .readSetting name fun answer => (next answer).bind f
  | .keep tenant rest, f => .keep tenant (rest.bind f)
  | .pause duration rest, f => .pause duration (rest.bind f)

instance : Monad Handling where
  pure := .done
  bind := Handling.bind

def report (event : Event) : Handling Unit :=
  .log event (.done ())

def run (statement : String) : Handling (Except Database.Error Nat) :=
  .execute statement .done

def setting (name : String) : Handling (Except SettingError (Option String)) :=
  .readSetting name .done

def refuse (refusal : Refusal) : Handling Answer :=
  .done (Answer.refuse refusal)

end Handling

/-- What a handler does, as a program. Every statement runs under the lock. -/
def Handling.toProgram {α : Type} : Handling α → Program α
  | .done value => .done value
  | .log event rest => .log event rest.toProgram
  | .execute statement next => Program.lockTransaction.bind fun
    | .error error => (next (.error error)).toProgram
    | .ok () => .ask (.execute statement) [] fun answer => (next answer).toProgram
  | .readSetting name next => Program.lockTransaction.bind fun
    | .error error => (next (.error (.transaction error))).toProgram
    | .ok () => .ask (.readSetting name) [] fun
      | .ok value => (next (.ok value)).toProgram
      | .error detail => (next (.error (.query detail))).toProgram
  | .keep tenant rest => .ask (.keep tenant) [] fun _ =>
    .visit (fun handle => { handle with isKept := true }) fun _ => rest.toProgram
  | .pause duration rest => .ask (.pause duration) [] fun _ => rest.toProgram

/-- What answers a request behind the stages. -/
abbrev Handler := Http.Request → Context → Handling Answer

namespace Context

/-- The tenant of a request, for a handler. -/
def requireTenant (context : Context) : Handling (Except Refusal Tenant) :=
  match context.tenant with
  | some tenant => .done (.ok tenant)
  | none => .done (.error .tenantUnresolved)

/-- The claims of a request, for a handler. There are none where no token is asked for. -/
def requireClaims (context : Context) : Handling (Except Refusal Token.Claims) :=
  match context.claims with
  | some claims => .done (.ok claims)
  | none => .done (.error (.unauthorized .missingCredential))

/-- The tenant that the transaction of a request is bound to, for a handler. -/
def requireTransaction (context : Context) : Handling (Except Refusal String) :=
  match context.transaction with
  | some tenant => .done (.ok tenant)
  | none => .log Refusal.noTransactionEvent (.done (.error .internal))

end Context

/-- What diagnostics show of a transaction handle. -/
def describeHandle (tenant : String) : String :=
  s!"TxHandle \x7b tenant_id: {Text.quoted tenant}, .. \x7d"

end Gatehouse
