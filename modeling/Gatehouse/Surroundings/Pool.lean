import Gatehouse.Database.Session
import Gatehouse.Site.Boundary

/-! Surroundings in which all requests share a pool of database connections, each with a session of
its own. A request works on the connection that it was given for its transaction, while others work
on theirs. A transaction that was dropped unfinished is rolled back before its connection is used
again. -/
namespace Gatehouse

namespace Database.Session

/-- The session as its connection is given out: no transaction is open there. -/
def reused (session : Session) : Session :=
  match session.phase with
  | .idle => session
  | _ => session.finish false

end Database.Session

namespace Surroundings

open Database

structure Pool where
  /-- The session of each connection. -/
  sessions : Nat → Session
  /-- The connection with the open transaction of the present request. -/
  inHand : Option Nat
  /-- The sessions that requests were given, as their transactions began, the latest first. -/
  begun : List Session

/-- What others do with the session of a connection. -/
inductive Doing
  | begin
  | bind (name value : String)
  | fail
  | finish (committed : Bool)

def Doing.apply (session : Session) : Doing → Session
  | .begin => session.reused.begin
  | .bind name value =>
    if session.phase = .active then session.after (.binding name value) else session
  | .fail => session.fail
  | .finish committed => session.finish committed

namespace Pool

/-- Connections that nobody has used. -/
def fresh : Pool := ⟨fun _ => .fresh, none, []⟩

def put (pool : Pool) (connection : Nat) (session : Session) : Pool :=
  { pool with sessions := fun other =>
      if other = connection then session else pool.sessions other }

/-- Gives a connection to the present request and begins a transaction there. -/
def lend (pool : Pool) (connection : Nat) : Pool :=
  let session := (pool.sessions connection).reused.begin
  { pool.put connection session with inHand := some connection, begun := session :: pool.begun }

/-- What is said of a statement where no transaction can run it. -/
def aborted : String := "current transaction is aborted"

/-- Runs a statement in the transaction in hand, unless it is to fail. -/
def within {α ε : Type} (pool : Pool) (unusable : ε) (reply : Except ε α)
    (effect : α → Session → α × Session) : Except ε α × Pool :=
  match pool.inHand with
  | none => (.error unusable, pool)
  | some connection =>
    let session := pool.sessions connection
    match reply with
    | .error error => (.error error, pool.put connection session.fail)
    | .ok value =>
      if session.phase = .active then
        let (value, session) := effect value session
        (.ok value, pool.put connection session)
      else (.error unusable, pool)

/-- Lets go of the connection in hand. A transaction that is open there is left unfinished. -/
def release (pool : Pool) : Pool :=
  { pool with inHand := none }

/-- Ends the transaction in hand. -/
def finish (pool : Pool) (committed : Bool) : Pool :=
  match pool.inHand with
  | none => pool
  | some connection =>
    (pool.put connection ((pool.sessions connection).finish committed)).release

/-- What a call that was answered has done to the pool, and the answer as the sessions have it. Which
connection is given out, and what a statement of a handler makes of the settings, is not up to the
pool. -/
def answer (pool : Pool) (connection : Nat)
    (resettle : List (String × String) → List (String × String)) :
    (call : Call) → call.Answer → call.Answer × Pool
  | .begin, .ok () => (.ok (), pool.lend connection)
  | .bind name value, reply =>
    pool.within (.statement aborted) reply fun _ session =>
      ((), session.after (.binding name value))
  | .execute _, reply =>
    pool.within (.statement aborted) reply fun rows session =>
      (rows, { session with settings := resettle session.settings })
  | .readSetting name, reply =>
    pool.within aborted reply fun _ session => (session.setting? name, session)
  | .commit, reply => (reply, pool.finish reply.isOk)
  | .rollback, reply => (reply, pool.finish false)
  | .letGo, reply => (reply, pool.release)
  | _, reply => (reply, pool)

/-- Others use their connections. -/
def meanwhile (pool : Pool) : List (Nat × Doing) → Pool
  | [] => pool
  | (connection, doing) :: rest =>
    if pool.inHand = some connection then pool.meanwhile rest
    else (pool.put connection (doing.apply (pool.sessions connection))).meanwhile rest

end Pool

/-- All that the pool has no say in. -/
structure Others (σ : Type) where
  /-- The answers to all calls, and how long they take. -/
  world : World σ
  /-- The connection that is given out. -/
  choice : σ → Nat
  /-- What a statement of a handler makes of the settings of its transaction. It makes none that
  outlives the transaction. -/
  resettle : σ → List (String × String) → List (String × String)
  /-- What is done on other connections after a call. -/
  doings : σ → List (Nat × Doing)

/-- The surroundings of a program that works on a pool. A call that is never answered does nothing
to the pool. -/
def pooled {σ : Type} (others : Others σ) : World (σ × Pool) := fun call (state, pool) =>
  match others.world call state with
  | (.never, next) => (.never, (next, pool.meanwhile (others.doings next)))
  | (.after delay reply, next) =>
    let (reply, pool) := pool.answer (others.choice next) (others.resettle next) call reply
    (.after delay reply, (next, pool.meanwhile (others.doings next)))

/-! ## Histories -/

/-- A request that comes in, and how long its client waits. -/
structure Arrival where
  patience : Site.Patience
  freshId : Bytes
  request : Http.Request

/-- A request that came in, the state in which it did, and how it ended. -/
structure Exchange (σ : Type) where
  arrival : Arrival
  before : σ × Pool
  reception : Site.Reception

/-- Serves a request, which lets go of its connection when it has ended. -/
def serve {σ : Type} (server : Site.Server) (others : Others σ) (arrival : Arrival)
    (state : σ × Pool) : Site.Reception × (σ × Pool) :=
  let (reception, scene, _) := server.receive (pooled others) arrival.patience arrival.freshId
    arrival.request (.fresh state)
  (reception, scene.world.1, scene.world.2.release)

/-- Serves requests one after the other. -/
def serveAll {σ : Type} (server : Site.Server) (others : Others σ) :
    List Arrival → σ × Pool → List (Exchange σ) × (σ × Pool)
  | [], state => ([], state)
  | arrival :: rest, state =>
    let (reception, next) := serve server others arrival state
    let (later, last) := serveAll server others rest next
    (⟨arrival, state, reception⟩ :: later, last)

end Surroundings

end Gatehouse
