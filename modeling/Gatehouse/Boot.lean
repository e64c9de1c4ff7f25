import Gatehouse.Config.Basic
import Gatehouse.Site.Boundary
import Gatehouse.Store.Command

/-! Starting the service: the configuration is read, the key is made of the secret, and the two
servers are connected to, in this order. The first step that fails ends the start. -/
namespace Gatehouse

/-- Why the service does not start. -/
inductive BootError
  | config (error : ConfigError)
  /-- The secret is no key. -/
  | secret
  | database
  | store
  deriving DecidableEq, Repr

def BootError.message : BootError → String
  | .config error => error.message
  | .secret => "TOKEN_SECRET_HEX"
  | .database => "connect to postgres"
  | .store => "connect to valkey"

/-- The first line that the service says before it ends. -/
def BootError.complaint (error : BootError) : String :=
  s!"Error: {error.message}"

/-- Which addresses a server answers at. -/
structure Network where
  hasDatabase : String → Bool
  hasStore : String → Bool

/-- The tenant lookup of a service; no caching is needed for no time. -/
def Config.dispatcher (config : Config) : Tenant.Dispatcher :=
  if config.tenantCacheSeconds = 0 then .table
  else
    .cached ⟨.ofSeconds config.tenantCacheSeconds, Tenant.Cache.defaultSpace, Store.serverName⟩
      .table

def Config.limiter (config : Config) : RateLimit.Limiter :=
  ⟨config.rateLimit, config.failMode, RateLimit.Limiter.defaultPatience, Store.serverName⟩

def Config.gate (config : Config) (key : Token.Key) : Gate :=
  ⟨key, config.limiter, config.dispatcher, config.cookieToken, config.tenantSetting⟩

/-- The server of a configuration. -/
def Config.server (config : Config) (key : Token.Key) : Site.Server :=
  ⟨Site.application (config.gate key), some config.requestTimeout⟩

/-- The server that an environment starts. -/
def boot (network : Network) (env : Environment) : Except BootError Site.Server := do
  let config ← (Config.ofEnvironment env).mapError .config
  let key ← (Token.Key.ofHex config.tokenSecret).mapError fun _ => .secret
  if !network.hasDatabase config.databaseUrl then .error .database
  else if !network.hasStore config.storeUrl then .error .store
  else .ok (config.server key)

end Gatehouse
