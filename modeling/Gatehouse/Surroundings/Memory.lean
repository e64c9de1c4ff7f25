import Gatehouse.Run
import Gatehouse.Store.KeyValue

/-! Surroundings that live in memory and can be made to fail: a directory, a cache that never
forgets, a counter store with a set answer, and a database that runs nothing. They show what the
service does about each failure. -/
namespace Gatehouse.Surroundings

/-- The calls on the database that can be made to fail. -/
inductive DatabaseCall
  | begin
  | bind
  | execute
  | commit
  | rollback
  deriving DecidableEq, Repr

/-- The calls on the cache that can be made to fail. -/
inductive CacheCall
  | read
  | write
  | delete
  deriving DecidableEq, Repr

/-- A cached text with the time for which it was to be kept. -/
structure Cached where
  value : String
  ttl : Duration
  deriving DecidableEq, Repr

structure Memory where
  /-- Labels and the ids of their tenants. -/
  tenants : List (String × String)
  /-- Labels that cannot be looked up, and why not. -/
  tenantErrors : List (String × String)
  /-- What the counter store answers to every call. -/
  counter : Reply (Except RateLimit.Error RateLimit.Decision)
  databaseFaults : List DatabaseCall
  cacheFaults : List CacheCall
  cache : Store.KeyValue Cached

namespace Memory

/-- What the directory answers. -/
def lookup (memory : Memory) (domain : String) : Except Tenant.LookupError String :=
  match memory.tenantErrors.lookup domain with
  | some detail => .error (.backend detail)
  | none =>
    match memory.tenants.lookup domain with
    | some id => .ok id
    | none => .error (.notFound domain)

/-- What the cache holds under a key. -/
def cached? (memory : Memory) (key : String) : Option Cached :=
  memory.cache.get? 0 key

/-- What every cache call fails with that is made to fail. -/
def cacheFailure : Store.Error := .connection "down"

/-- A database call that may be made to fail. -/
def database {α : Type} (memory : Memory) (call : DatabaseCall) (failure : Database.Error)
    (value : α) : Except Database.Error α :=
  if call ∈ memory.databaseFaults then .error failure else .ok value

def readCache (memory : Memory) (key : String) : Except Store.Error (Option String) :=
  if .read ∈ memory.cacheFaults then .error cacheFailure
  else .ok ((memory.cached? key).map Cached.value)

def writeCache (memory : Memory) (key value : String) (ttl : Duration) :
    Except Store.Error Unit × Memory :=
  if .write ∈ memory.cacheFaults then (.error cacheFailure, memory)
  else (.ok (), { memory with cache := memory.cache.set key ⟨value, ttl⟩ })

/-- Answers with the number of entries removed. -/
def deleteCache (memory : Memory) (key : String) : Except Store.Error Nat × Memory :=
  if .delete ∈ memory.cacheFaults then (.error cacheFailure, memory)
  else
    (.ok (if (memory.cached? key).isSome then 1 else 0),
      { memory with cache := memory.cache.erase key })

/-- A statement answers the length of its text. Settings cannot be read back. -/
def answer (memory : Memory) : (call : Call) → Gatehouse.Reply call.Answer × Memory
  | .lookup domain => (.now (memory.lookup domain), memory)
  | .readCache key => (.now (memory.readCache key), memory)
  | .writeCache key value ttl =>
    let (done, memory) := memory.writeCache key value ttl
    (.now done, memory)
  | .deleteCache key =>
    let (removed, memory) := memory.deleteCache key
    (.now removed, memory)
  | .count _ _ patience => (memory.counter.within patience, memory)
  | .begin => (.now (memory.database .begin (.begin "pool closed") ()), memory)
  | .bind _ _ => (.now (memory.database .bind (.statement "permission denied") ()), memory)
  | .execute statement =>
    (.now (memory.database .execute (.statement "syntax error") statement.utf8ByteSize), memory)
  | .readSetting _ => (.now (.ok none), memory)
  | .commit => (.now (memory.database .commit (.commit "connection reset") ()), memory)
  | .rollback => (.now (memory.database .rollback (.rollback "connection reset") ()), memory)
  | .letGo => (.now (), memory)
  | .untilFree => (.now (), memory)
  | .keep _ => (.now (), memory)
  | .pause duration => (.after duration (), memory)

/-- Memory as the surroundings of a program. -/
def world : World Memory := fun call memory => memory.answer call

end Memory

end Gatehouse.Surroundings
