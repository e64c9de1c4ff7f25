import Gatehouse.Program

/-! From a domain to a tenant id: by the directory itself, or through a cache of the answers
that were found. A cache that fails is passed over, and what was not found is not cached. -/
namespace Gatehouse.Tenant

/-- The settings of a cache in front of a directory. -/
structure Cache where
  ttl : Duration
  /-- What the keys of the cache begin with. -/
  space : String
  /-- The name of the store, for the log. -/
  backend : String
  deriving DecidableEq, Repr

/-- What the keys begin with unless something else is chosen. -/
def Cache.defaultSpace : String := "tenant:domain"

def Cache.key (cache : Cache) (domain : String) : String :=
  s!"{cache.space}:{domain}"

/-- Where tenants are looked up. -/
inductive Dispatcher
  | directory
  /-- A directory that reports its failures and keeps their details from its callers. -/
  | table
  | cached (cache : Cache) (inner : Dispatcher)
  deriving DecidableEq, Repr

/-- What a caller is told when a table fails. -/
def tableFailure : LookupError := .backend "tenant lookup failed"

def findInTable (domain : String) : Program (Except LookupError String) := do
  match ← Program.call (.lookup domain) with
  | .ok id => pure (.ok id)
  | .error (.notFound name) => pure (.error (.notFound name))
  | .error (.backend detail) => do
    Program.report (.error "tenant lookup failed" [("domain", domain), ("error", detail)])
    pure (.error tableFailure)

namespace Cache

/-- The cached id of a domain, if there is one and the cache can be read. -/
def read (cache : Cache) (domain : String) : Program (Option String) := do
  match ← Program.call (.readCache (cache.key domain)) with
  | .ok found => pure found
  | .error error => do
    Program.report <| .warn "tenant cache read failed; falling back to lookup"
      [("error", error.message), ("backend", cache.backend)]
    pure none

/-- Caches an id, if the cache can be written. -/
def write (cache : Cache) (domain id : String) : Program Unit := do
  match ← Program.call (.writeCache (cache.key domain) id cache.ttl) with
  | .ok () => pure ()
  | .error error =>
    Program.report <| .warn "tenant cache write failed"
      [("error", error.message), ("backend", cache.backend)]

/-- Forgets the cached id of a domain. Tells whether there was one. -/
def invalidate (cache : Cache) (domain : String) : Program (Except Store.Error Bool) := do
  match ← Program.call (.deleteCache (cache.key domain)) with
  | .ok removed => pure (.ok (decide (0 < removed)))
  | .error error => pure (.error error)

end Cache

/-- The id of the tenant of a domain. -/
def Dispatcher.find : Dispatcher → String → Program (Except LookupError String)
  | .directory, domain => Program.call (.lookup domain)
  | .table, domain => findInTable domain
  | .cached cache inner, domain => do
    match ← cache.read domain with
    | some id => pure (.ok id)
    | none => do
      match ← inner.find domain with
      | .error error => pure (.error error)
      | .ok id => do
        cache.write domain id
        pure (.ok id)

end Gatehouse.Tenant
