import Gatehouse.Config.Environment
import Gatehouse.Config.Setting
import Gatehouse.RateLimit.Basic
import Gatehouse.Text.Integer

/-! The configuration of the service, read from the environment. There is no default for the
two addresses and the secret. The first variable that is missing or cannot be used decides the
error. -/
namespace Gatehouse

inductive Mode
  | development
  | production
  deriving DecidableEq, Repr

def Mode.name : Mode → String
  | .development => "development"
  | .production => "production"

def Mode.describe : Mode → String
  | .development => "Development"
  | .production => "Production"

inductive ConfigError
  | missing (key : String)
  | invalid (key : String)
  deriving DecidableEq, Repr

def ConfigError.message : ConfigError → String
  | .missing key => s!"missing configuration: {key}"
  | .invalid key => s!"invalid configuration: {key}"

structure Config where
  port : Nat
  mode : Mode
  databaseUrl : String
  databaseMaxConnections : Nat
  storeUrl : String
  /-- 64 bytes of text, without blanks around them. -/
  tokenSecret : String
  cookieToken : Bool
  rateLimit : RateLimit.Config
  failMode : RateLimit.FailMode
  tenantSetting : String
  tenantCacheSeconds : Nat
  requestTimeout : Duration
  deriving DecidableEq, Repr

namespace Config

/-- A port that cannot be used is replaced by the default. -/
def port? (env : Environment) : Option Nat :=
  (env.get? "PORT").bind fun text => Text.readNat? Text.maxU16 text.toList

def modeOf (env : Environment) : Mode :=
  match env.get? "APP_ENV" with
  | none => .development
  | some text =>
    let word := String.ofList (Text.lower text.toList)
    if word = "production" ∨ word = "prod" then .production else .development

def required (env : Environment) (key : String) : Except ConfigError String :=
  match env.get? key with
  | none => .error (.missing key)
  | some text => .ok text

/-- A value read by `read?` after trimming, or the default if the variable is unset. -/
def readOr {α : Type} (env : Environment) (key : String) (read? : List Char → Option α)
    (default : α) : Except ConfigError α :=
  match env.get? key with
  | none => .ok default
  | some text =>
    match read? (Text.trim text.toList) with
    | none => .error (.invalid key)
    | some value => .ok value

def readU32? (text : List Char) : Option Nat := Text.readNat? Text.maxU32 text

def readU64? (text : List Char) : Option Nat := Text.readNat? Text.maxU64 text

def readBool? (text : List Char) : Option Bool :=
  let word := String.ofList (Text.lower text)
  if word = "1" ∨ word = "true" ∨ word = "yes" ∨ word = "on" then some true
  else if word = "0" ∨ word = "false" ∨ word = "no" ∨ word = "off" then some false
  else none

def secret (env : Environment) : Except ConfigError String := do
  let text := String.ofList (Text.trim (← required env "TOKEN_SECRET_HEX").toList)
  if text.utf8ByteSize = 64 then .ok text else .error (.invalid "TOKEN_SECRET_HEX")

def rateLimitOf (env : Environment) : Except ConfigError RateLimit.Config := do
  let name := (env.get? "RATE_LIMIT_NAME").getD "global"
  let rate ← readOr env "RATE_LIMIT_RATE" readU32? 100
  let burst ← readOr env "RATE_LIMIT_BURST" readU32? 100
  let period ← readOr env "RATE_LIMIT_PERIOD_SECONDS" readU64? 60
  if rate = 0 then .error (.invalid "RATE_LIMIT_RATE")
  else if period = 0 then .error (.invalid "RATE_LIMIT_PERIOD_SECONDS")
  else .ok ⟨name, ⟨rate, burst, .ofSeconds period⟩⟩

def failModeOf (env : Environment) : Except ConfigError RateLimit.FailMode :=
  match env.get? "RATE_LIMIT_FAIL_MODE" with
  | none => .ok .lenient
  | some text =>
    match RateLimit.FailMode.parse text with
    | .ok mode => .ok mode
    | .error _ => .error (.invalid "RATE_LIMIT_FAIL_MODE")

def defaultTenantSetting : String := "app.current_tenant_id"

def tenantSettingOf (env : Environment) : Except ConfigError String :=
  let name := (env.get? "RLS_TENANT_SETTING").getD defaultTenantSetting
  if Setting.isValidName name.toList then .ok name else .error (.invalid "RLS_TENANT_SETTING")

def ofEnvironment (env : Environment) : Except ConfigError Config := do
  let databaseUrl ← required env "DATABASE_URL"
  let maxConnections ← readOr env "DATABASE_MAX_CONNECTIONS" readU32? 10
  let storeUrl ← required env "REDIS_URL"
  let tokenSecret ← secret env
  let cookieToken ← readOr env "ENABLE_COOKIE_TOKEN" readBool? false
  let rateLimit ← rateLimitOf env
  let failMode ← failModeOf env
  let tenantSetting ← tenantSettingOf env
  let tenantCacheSeconds ← readOr env "TENANT_CACHE_TTL_SECONDS" readU64? 300
  let timeout ← readOr env "REQUEST_TIMEOUT_SECONDS" readU64? 30
  .ok ⟨(port? env).getD 3000, modeOf env, databaseUrl, maxConnections, storeUrl, tokenSecret,
    cookieToken, rateLimit, failMode, tenantSetting, tenantCacheSeconds, .ofSeconds timeout⟩

/-- The address that the server listens on. -/
def address (config : Config) : String :=
  s!"0.0.0.0:{config.port}"

/-- What diagnostics show: neither the addresses, which hold passwords, nor the secret. -/
def describe (config : Config) : String :=
  s!"Config \x7b addr: {config.address}, app_env: {config.mode.describe}, " ++
    s!"database_max_connections: {config.databaseMaxConnections}, " ++
    s!"enable_cookie_token: {config.cookieToken}, rate_limit: {config.rateLimit.describe}, " ++
    s!"rate_limit_fail_mode: {config.failMode.describe}, " ++
    s!"rls_tenant_setting: {Text.quoted config.tenantSetting}, " ++
    s!"tenant_cache_ttl_seconds: {config.tenantCacheSeconds}, " ++
    s!"request_timeout: {config.requestTimeout.describe} \x7d"

end Config

end Gatehouse
