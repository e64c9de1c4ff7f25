import Gatehouse.RateLimit.Limiter
import Gatehouse.Surroundings.Counter
import Gatehouse.Surroundings.Crowd

/-! A limiter and a cached directory that share a key-value server. Clients are admitted, domains are
looked up and forgotten, all at the same time: they go on call by call in any order, each call at a
time of its own. A call may fail, whether or not it is carried out on the server. -/
namespace Gatehouse

/-- What a program has come to, if it is over. -/
def Program.value? {α : Type} : Program α → Option α
  | .done value => some value
  | _ => none

namespace Surroundings

/-- The limiter, and the cache with the directory behind it. -/
structure Users where
  limiter : RateLimit.Limiter
  cache : Tenant.Cache
  inner : Tenant.Dispatcher

/-- What someone does: a client is admitted, or the cached directory is consulted. -/
inductive Errand
  | arrive (client : String)
  | consult (operation : Operation)
  deriving DecidableEq

/-- What comes of an errand. -/
inductive Report
  | admission (admission : RateLimit.Admission)
  | result (result : Result)

def Operation.domain : Operation → String
  | .find domain => domain
  | .invalidate domain => domain

namespace Errand

/-- The errand is for this client. -/
def isFor (client : String) (errand : Errand) : Bool :=
  decide (errand = .arrive client)

def isConsultation : Errand → Bool
  | .arrive _ => false
  | .consult _ => true

/-- The one key that an errand is about. -/
def key (users : Users) : Errand → String
  | .arrive client => users.limiter.key client
  | .consult operation => users.cache.key operation.domain

def program (users : Users) : Errand → Program Report
  | .arrive client => (users.limiter.admission client).bind fun admission =>
    .done (.admission admission)
  | .consult operation => (operation.program users.cache users.inner).bind fun result =>
    .done (.result result)

end Errand

/-! ## The server and the directory -/

structure Commons (F δ : Type) where
  data : Store.Data F
  directory : δ

/-- How the store counts, and how the directory answers at a time. -/
structure Conduct (F δ : Type) where
  reckoning : Reckoning F
  lookup : (domain : String) → (time : Int) → δ → Except Tenant.LookupError String × δ

variable {F δ : Type} [RateLimit.Arithmetic F]

/-- What is answered to a call that is carried out at a time. The other calls are for others. -/
def Commons.reply (conduct : Conduct F δ) (time : Int) (commons : Commons F δ) :
    (call : Call) → Option call.Answer × Commons F δ
  | .lookup domain =>
    let (answer, directory) := conduct.lookup domain time commons.directory
    (some answer, { commons with directory })
  | .readCache key => (some (.ok (commons.data.read time key)), commons)
  | .writeCache key value ttl =>
    (some (.ok ()), { commons with
      data := commons.data.setFor time key (.text value) ttl.secondsAtLeastOne })
  | .deleteCache key =>
    let (existed, data) := commons.data.delete time key
    (some (.ok (if existed then 1 else 0)), { commons with data })
  | .count key limit _ =>
    let (decision, data) := conduct.reckoning.count time key limit commons.data
    (some (some decision), { commons with data })
  | _ => (none, commons)

/-- What becomes of a call. -/
inductive Fate
  | answered
  /-- This is answered in any case, and the call is carried out or not. -/
  | failed (answer : (call : Call) → call.Answer) (lands : Bool)

/-- A party has its next call answered. -/
structure Turn where
  party : Nat
  time : Int
  fate : Fate

def Commons.answer (conduct : Conduct F δ) (turn : Turn) (commons : Commons F δ) (call : Call) :
    Option call.Answer × Commons F δ :=
  let (reply, next) := commons.reply conduct turn.time call
  match turn.fate with
  | .answered => (reply, next)
  | .failed answer lands => (some (answer call), if lands then next else commons)

/-! ## Going on side by side -/

/-- What is left to do for each party. -/
structure Gathering (F δ : Type) where
  commons : Commons F δ
  rest : Nat → Program Report

def Gathering.start (users : Users) (errands : Nat → Errand) (commons : Commons F δ) :
    Gathering F δ :=
  ⟨commons, fun party => ((errands party).program users).pastEvents⟩

namespace Gathering

/-- What the party whose turn it is reports, if it is through then. -/
def step (conduct : Conduct F δ) (gathering : Gathering F δ) (turn : Turn) :
    Option Report × Gathering F δ :=
  match gathering.rest turn.party with
  | .ask call _ next =>
    let (answer, commons) := gathering.commons.answer conduct turn call
    match answer with
    | none => (none, ⟨commons, gathering.rest⟩)
    | some answer =>
      let rest := (next answer).pastEvents
      (rest.value?,
        ⟨commons, fun party => if party = turn.party then rest else gathering.rest party⟩)
  | _ => (none, gathering)

/-- Who has reported what, in order. -/
def reports (conduct : Conduct F δ) (gathering : Gathering F δ) : List Turn → List (Nat × Report)
  | [] => []
  | turn :: rest =>
    let (report, next) := gathering.step conduct turn
    (report.map (turn.party, ·)).toList ++ next.reports conduct rest

end Gathering

end Surroundings

end Gatehouse
