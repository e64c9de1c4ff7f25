import Gatehouse.Run
import Gatehouse.Store.Command
import Gatehouse.Tenant.Dispatcher

/-! Surroundings in which the tenant cache is kept on a key-value server that others use too. The
server keeps time, and what it holds goes when its time is over. The directory answers as it likes,
and a call to the server may fail, whether or not its command was carried out. -/
namespace Gatehouse

/-- The one key that a command is about. -/
def Store.Command.key : Store.Command → String
  | .get key => key
  | .set key _ _ => key
  | .delete key => key
  | .count key _ => key
  | .keep key _ _ => key

namespace Surroundings

structure Shelf where
  data : Store.Data Float
  /-- The time of the server, in microseconds. -/
  clock : Int

namespace Shelf

/-- What is kept under a key, even if its time is over. -/
def held? (shelf : Shelf) (key : String) : Option (Store.Entry (Store.Stored Float)) :=
  shelf.data.entries.lookup key

/-- Carries a command out. -/
def perform (shelf : Shelf) (command : Store.Command) : Store.Reply × Shelf :=
  let (reply, data, _) := shelf.data.apply shelf.clock command
  (reply, { shelf with data })

def wait (shelf : Shelf) (microseconds : Nat) : Shelf :=
  { shelf with clock := shelf.clock + microseconds }

/-- Others have their commands carried out. -/
def meanwhile (shelf : Shelf) : List Store.Command → Shelf
  | [] => shelf
  | command :: rest => (shelf.perform command).2.meanwhile rest

/-- The command by which a call is made. -/
def command? : Call → Option Store.Command
  | .readCache key => some (.get key)
  | .writeCache key value ttl => some (.set key value ttl.secondsAtLeastOne)
  | .deleteCache key => some (.delete key)
  | _ => none

/-- The shelf after a call without success. -/
def missed (shelf : Shelf) (lands : Bool) (call : Call) : Shelf :=
  match command? call with
  | some command => if lands then (shelf.perform command).2 else shelf
  | none => shelf

/-- The answer to a call, and the shelf after it. What is asked of the server is up to the shelf,
unless the call is to fail. -/
def answer (shelf : Shelf) (lands : Bool) : (call : Call) → call.Answer → call.Answer × Shelf
  | .readCache key, .ok _ =>
    let (reply, shelf) := shelf.perform (.get key)
    (reply.readValue, shelf)
  | .writeCache key value ttl, .ok _ =>
    let (reply, shelf) := shelf.perform (.set key value ttl.secondsAtLeastOne)
    (reply.readDone, shelf)
  | .deleteCache key, .ok _ =>
    let (reply, shelf) := shelf.perform (.delete key)
    (reply.readCount, shelf)
  | call, reply => (reply, shelf.missed lands call)

end Shelf

/-- All that the shelf has no say in. -/
structure Circumstances (σ : Type) where
  /-- The answers of the directory and all others, and which calls to the server fail. A call
  without an answer waits for ever. -/
  answers : (call : Call) → σ → Option call.Answer × σ
  /-- The microseconds that pass before a call is carried out. -/
  lag : σ → Nat
  /-- What others have carried out before a call is. -/
  commands : σ → List Store.Command
  /-- A call to the server that fails is carried out all the same. -/
  lands : σ → Bool

/-- The surroundings of a program that works on a shelf. -/
def shelved {σ : Type} (circumstances : Circumstances σ) : World (σ × Shelf) :=
  fun call (state, shelf) =>
    let (reply, next) := circumstances.answers call state
    let shelf := (shelf.wait (circumstances.lag next)).meanwhile (circumstances.commands next)
    match reply with
    | none => (.never, next, shelf.missed (circumstances.lands next) call)
    | some reply =>
      let (reply, shelf) := shelf.answer (circumstances.lands next) call reply
      (.after ⟨circumstances.lag next * 1000⟩ reply, next, shelf)

/-! ## Histories -/

/-- What is done with a cached directory. -/
inductive Operation
  | find (domain : String)
  | invalidate (domain : String)
  deriving DecidableEq, Repr

/-- What comes of an operation. -/
inductive Result
  | found (answer : Except Tenant.LookupError String)
  | forgotten (answer : Except Store.Error Bool)

def Operation.program (cache : Tenant.Cache) (inner : Tenant.Dispatcher) :
    Operation → Program Result
  | .find domain => ((Tenant.Dispatcher.cached cache inner).find domain).bind fun answer =>
    .done (.found answer)
  | .invalidate domain => (cache.invalidate domain).bind fun answer => .done (.forgotten answer)

/-- An operation, the state before it, and its run. -/
structure Episode (σ : Type) where
  operation : Operation
  before : σ × Shelf
  outcome : Outcome (σ × Shelf) Result

namespace Episode

variable {σ : Type}

/-- The shelf after an operation. -/
def shelf (episode : Episode σ) : Shelf :=
  episode.outcome.scene.world.2

/-- The time at which an operation was over. -/
def ended (episode : Episode σ) : Int :=
  episode.shelf.clock

/-- The directory was asked for the domain by a find, and answered with this id. -/
def Gave (episode : Episode σ) (domain id : String) : Prop :=
  episode.operation = .find domain ∧
    .answered (.lookup domain) (.ok id) ∈ episode.outcome.trace

/-- The domain was forgotten, and the caller was told so. -/
def Forgot (episode : Episode σ) (domain : String) : Prop :=
  episode.operation = .invalidate domain ∧
    ∃ removed, episode.outcome.ending = .finished (.forgotten (.ok removed))

end Episode

def Operation.episode {σ : Type} (operation : Operation) (circumstances : Circumstances σ)
    (deadline : Option Duration) (cache : Tenant.Cache) (inner : Tenant.Dispatcher)
    (state : σ × Shelf) : Episode σ :=
  ⟨operation, state,
    (operation.program cache inner).run (shelved circumstances) deadline (.fresh state)⟩

/-- Does one operation after the other. -/
def operate {σ : Type} (circumstances : Circumstances σ) (deadline : Option Duration)
    (cache : Tenant.Cache) (inner : Tenant.Dispatcher) :
    List Operation → σ × Shelf → List (Episode σ)
  | [], _ => []
  | operation :: rest, state =>
    let episode := operation.episode circumstances deadline cache inner state
    episode :: operate circumstances deadline cache inner rest episode.outcome.scene.world

end Surroundings

end Gatehouse
