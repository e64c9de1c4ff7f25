import Gatehouse.Surroundings.Shelf

/-! Many finds and invalidations at the same time, on one shelf and one directory. They go on call
by call in any order, and in between the directory changes and time passes. The cache works. -/
namespace Gatehouse

/-- The program at its next call, with the events before it reported. -/
def Program.pastEvents {α : Type} : Program α → Program α
  | .log _ rest => rest.pastEvents
  | program => program

namespace Surroundings

abbrev Directory := String → Except Tenant.LookupError String

/-- A directory and a cache that answer at once. -/
def working : Circumstances Directory where
  answers
    | .lookup domain, directory => (some (directory domain), directory)
    | .readCache _, directory => (some (.ok none), directory)
    | .writeCache _ _ _, directory => (some (.ok ()), directory)
    | .deleteCache _, directory => (some (.ok 0), directory)
    | _, directory => (none, directory)
  lag _ := 0
  commands _ := []
  lands _ := false

/-- Someone who does an operation, and what is left of it to do. -/
structure Party where
  operation : Operation
  rest : Program Result

/-- The party has yet to have this value written. -/
def Party.Writes (party : Party) (key value : String) : Prop :=
  ∃ ttl holds next, party.rest = .ask (.writeCache key value ttl) holds next

structure Crowd where
  directory : Directory
  shelf : Shelf
  parties : List Party

inductive Move
  /-- Someone joins the crowd. -/
  | start (operation : Operation)
  /-- A party has its next call answered. -/
  | proceed (index : Nat)
  /-- The directory answers differently from now on. -/
  | change (domain : String) (answer : Except Tenant.LookupError String)
  | wait (microseconds : Nat)

namespace Crowd

def proceed (crowd : Crowd) (index : Nat) : Option Crowd :=
  match crowd.parties[index]? with
  | some ⟨operation, .ask call _ next⟩ =>
    match shelved working call (crowd.directory, crowd.shelf) with
    | (.after _ answer, directory, shelf) =>
      some ⟨directory, shelf, crowd.parties.set index ⟨operation, (next answer).pastEvents⟩⟩
    | (.never, _) => none
  | _ => none

variable (cache : Tenant.Cache) (inner : Tenant.Dispatcher)

def step (crowd : Crowd) : Move → Option Crowd
  | .start operation =>
    let party : Party := ⟨operation, (operation.program cache inner).pastEvents⟩
    some { crowd with parties := crowd.parties ++ [party] }
  | .proceed index => crowd.proceed index
  | .change domain answer =>
    let directory name := if name = domain then answer else crowd.directory name
    some { crowd with directory }
  | .wait microseconds => some { crowd with shelf := crowd.shelf.wait microseconds }

def run (crowd : Crowd) : List Move → Option Crowd
  | [] => some crowd
  | move :: rest =>
    match crowd.step cache inner move with
    | some next => next.run rest
    | none => none

/-- How the operation of a party ends if everyone else stands still. -/
def ending (crowd : Crowd) (party : Party) : Ending Result :=
  (party.rest.run (shelved working) none (.fresh (crowd.directory, crowd.shelf))).ending

end Crowd

end Surroundings

end Gatehouse
