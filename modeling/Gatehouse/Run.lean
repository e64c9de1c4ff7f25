import Gatehouse.Database.Handle

/-! Running programs. The surroundings answer each call after some time, or never. A program
that is given a deadline is dropped when it would have to wait beyond it; what it had in its
hands is then cleared away. -/
namespace Gatehouse

/-- An answer and the time that it takes. -/
inductive Reply (α : Type)
  | after (delay : Duration) (value : α)
  | never

namespace Reply

variable {α : Type}

def now (value : α) : Reply α :=
  .after .zero value

/-- The answer if it comes in time, and otherwise none once patience has run out. -/
def within (patience : Duration) : Reply α → Reply (Option α)
  | .after delay value =>
    if delay.nanoseconds ≤ patience.nanoseconds then .after delay (some value)
    else .after patience none
  | .never => .after patience none

end Reply

/-- Surroundings with a state of their own. -/
abbrev World (σ : Type) := (call : Call) → σ → Reply call.Answer × σ

/-- What can be seen of a run from outside. -/
inductive Entry
  | answered (call : Call) (answer : call.Answer)
  /-- The request was dropped while it waited for the answer. -/
  | dropped (call : Call)
  | logged (event : Event)

namespace Entry

/-- The call that was made, whether it was answered or not. -/
def call? : Entry → Option Call
  | .answered call _ => some call
  | .dropped call => some call
  | .logged _ => none

def event? : Entry → Option Event
  | .logged event => some event
  | _ => none

/-- The tenant whose handle was cloned for someone who outlives the request. -/
def kept? : Entry → Option String
  | .answered (.keep tenant) _ => some tenant
  | _ => none

end Entry

/-- The calls of a run, in order. -/
def callsOf (trace : List Entry) : List Call :=
  trace.filterMap Entry.call?

/-- The events of a run, in order. -/
def eventsOf (trace : List Entry) : List Event :=
  trace.filterMap Entry.event?

/-- How a run ends. -/
inductive Ending (α : Type)
  | finished (value : α)
  /-- The request was dropped with these things in its hands, innermost first. -/
  | dropped (holds : List Hold)

/-- What a run goes on from: the surroundings, the handle and the time used up so far, in
nanoseconds. -/
structure Scene (σ : Type) where
  world : σ
  handle : Handle
  elapsed : Nat

/-- The scene before a request. -/
def Scene.fresh {σ : Type} (world : σ) : Scene σ := ⟨world, .none, 0⟩

structure Outcome (σ α : Type) where
  ending : Ending α
  scene : Scene σ
  trace : List Entry

/-- A wait of the given time is over before the deadline, if there is one. -/
def endsInTime (deadline : Option Duration) (elapsed delay : Nat) : Bool :=
  match deadline with
  | none => true
  | some limit => elapsed + delay ≤ limit.nanoseconds

namespace Program

variable {σ α β : Type}

def run (world : World σ) (deadline : Option Duration) : Program α → Scene σ → Outcome σ α
  | .done value, scene => ⟨.finished value, scene, []⟩
  | .log event rest, scene =>
    let outcome := rest.run world deadline scene
    { outcome with trace := .logged event :: outcome.trace }
  | .visit change next, scene =>
    (next scene.handle).run world deadline { scene with handle := change scene.handle }
  | .ask call holds next, scene =>
    match world call scene.world with
    | (.after delay value, state) =>
      if endsInTime deadline scene.elapsed delay.nanoseconds then
        let elapsed := scene.elapsed + delay.nanoseconds
        let outcome := (next value).run world deadline { scene with world := state, elapsed }
        { outcome with trace := .answered call value :: outcome.trace }
      else ⟨.dropped holds, { scene with world := state }, [.dropped call]⟩
    | (.never, state) => ⟨.dropped holds, { scene with world := state }, [.dropped call]⟩

/-- Runs a program and, if it is dropped, clears away what it had in its hands. -/
def runAndClear (world : World σ) (deadline : Option Duration) (runtime : Bool)
    (program : Program α) (scene : Scene σ) : Option α × Scene σ × List Entry :=
  let outcome := program.run world deadline scene
  match outcome.ending with
  | .finished value => (some value, outcome.scene, outcome.trace)
  | .dropped holds =>
    let cleared := (Hold.clearAll runtime holds).run world none outcome.scene
    (none, cleared.scene, outcome.trace ++ cleared.trace)

end Program

end Gatehouse
