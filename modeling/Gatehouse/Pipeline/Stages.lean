import Gatehouse.Credential
import Gatehouse.Digest.Sha256
import Gatehouse.Bytes.Hex
import Gatehouse.Pipeline.Gate
import Gatehouse.RateLimit.Client
import Gatehouse.Tenant.Host

/-! The stages that a request goes through: its tenant is resolved, its client is limited, its
token is verified, and a transaction bound to the tenant is opened around its handler. A stage
that refuses ends the request, and the stages behind it never see it. -/
namespace Gatehouse.Pipeline

/-! ## Tenant -/

def describeHost (host : Option (List Char)) : String :=
  match host with
  | none => "None"
  | some text => s!"Some({Text.quoted (String.ofList text)})"

def noHostEvent (host : Option (List Char)) : Event :=
  .warn "no usable host on request" [("host", describeHost host), ("reason", "tenant_unresolved")]

def lookupEvent (domain : String) : Tenant.LookupError → Event
  | .notFound _ => .warn "unmapped tenant" [("domain", domain), ("reason", "tenant_unresolved")]
  | .backend detail =>
    .error "tenant dispatcher failed"
      [("domain", domain), ("error", (Tenant.LookupError.backend detail).message),
       ("reason", "tenant_unresolved")]

/-- Finds the tenant by the host of the request. -/
def resolveTenant (gate : Gate) (request : Http.Request) (context : Context)
    (next : Context → Program Answer) : Program Answer := do
  let host := Tenant.effectiveHost? request.headers request.target
  match host.bind Tenant.label? with
  | none => do
    Program.report (noHostEvent host)
    Program.refuse .tenantUnresolved
  | some label => do
    let domain := String.ofList label
    match ← gate.tenants.find domain with
    | .error error => do
      Program.report (lookupEvent domain error)
      Program.refuse .tenantUnresolved
    | .ok id => next { context with tenant := some ⟨id, domain⟩ }

/-! ## Rate limit -/

/-- The milliseconds until the full quota is back, as they are added to those of the clock. Where they
are more than 64 bits hold, it is half of what these hold. -/
def resetMillis (resetAfter : Duration) : Int :=
  if (resetAfter.millis : Int) ≤ Text.maxI64 then resetAfter.millis else Text.maxI64 / 2

/-- The second at which the full quota is back. There is none if 64 bits do not hold the sum. -/
def resetSecond (now : Int) (resetAfter : Duration) : Except Panic Int :=
  let sum := now + resetMillis resetAfter
  if Text.maxI64 < sum then .error (.text "attempt to add with overflow")
  else .ok (sum.tdiv 1000)

/-- The reset second of a decision. The time is read only now, when the handler is through. -/
def resetOf (request : Http.Request) (decision : RateLimit.Decision) : Except Panic Int :=
  (timeOf request).bind fun now => resetSecond now decision.resetAfter

/-- Sets the three headers by which a client can follow its quota. -/
def setQuota (rate : Nat) (decision : RateLimit.Decision) (reset : Int) (response : Http.Response) :
    Http.Response :=
  ((response.setHeader "x-ratelimit-limit" (toString rate)).setHeader "x-ratelimit-remaining"
    (toString decision.remaining)).setHeader "x-ratelimit-reset" (toString reset)

/-- Tells the quota in a response. -/
def addQuota (rate : Nat) (decision : RateLimit.Decision) (request : Http.Request)
    (response : Http.Response) : Answer :=
  (resetOf request decision).map fun reset => setQuota rate decision reset response

theorem addQuota_ok {request : Http.Request} {decision : RateLimit.Decision}
    {reset : Int} (h : resetOf request decision = .ok reset) (rate : Nat) (response : Http.Response) :
    addQuota rate decision request response = .ok (setQuota rate decision reset response) := by
  rw [addQuota, h]
  rfl

theorem addQuota_error {request : Http.Request} {decision : RateLimit.Decision}
    {panic : Panic} (h : resetOf request decision = .error panic) (rate : Nat) (response : Http.Response) :
    addQuota rate decision request response = .error panic := by
  rw [addQuota, h]
  rfl

def tooManyRequests (wait : Nat) : Http.Response :=
  .json 429 <| .object
    [("title", .string "Too Many Requests"), ("status", .int 429),
     ("detail", .string "API request limit exceeded. Please try again later."),
     ("message", .string s!"Rate limit exceeded. Retry after {wait} seconds.")]

def deniedEvent (gate : Gate) (client : String) (wait : Nat) : Event :=
  .warn "rate limit exceeded"
    [("client", client), ("limiter", gate.limiter.config.limiterName),
     ("retry_after", toString wait)]

/-- Asks the limiter. Where it decided, the response tells the quota. -/
def limitRate (gate : Gate) (request : Http.Request) (context : Context)
    (next : Context → Program Answer) : Program Answer := do
  let client := String.ofList (RateLimit.client request.headers request.peer)
  let rate := gate.limiter.config.limit.rate
  match ← gate.limiter.admission client with
  | .failedOpen => next context
  | .failedClosed => Program.refuse .rateLimitUnavailable
  | .decided decision =>
    if decision.allowed then do
      let answer ← next context
      pure (answer.bind (addQuota rate decision request))
    else do
      let wait := RateLimit.retryAfterSeconds decision.retryAfter
      Program.report (deniedEvent gate client wait)
      pure ((addQuota rate decision request (tooManyRequests wait)).map fun response =>
        response.setHeader "retry-after" (toString wait))

/-! ## Authorization -/

/-- Who may use an operation: everyone, or the bearer of a token for its tenant. -/
inductive Access
  | everyone
  | bearer
  deriving DecidableEq, Repr

/-- The first bytes of a digest of the token, which may be logged. -/
def fingerprint (token : String) : String :=
  String.ofList (Bytes.toHex ((Sha256.digest (Bytes.ofText token)).take 6))

def credentialReason : CredentialError → UnauthorizedReason
  | .missing => .missingCredential
  | .malformed => .malformedCredential

def tokenReason : Token.Error → UnauthorizedReason
  | .expired => .tokenExpired
  | .notYetValid => .tokenNotYetValid
  | _ => .invalidToken

def rejectedEvent (reason : UnauthorizedReason) (details : List (String × String)) : Event :=
  .warn "authorization rejected" (("reason", reason.name) :: details)

def reject (reason : UnauthorizedReason) (details : List (String × String)) : Program Answer := do
  Program.report (rejectedEvent reason details)
  Program.refuse (.unauthorized reason)

/-- Lets verified claims pass if they are for the tenant of the request. -/
def checkTenant (context : Context) (claims : Token.Claims) (next : Context → Program Answer) :
    Program Answer :=
  match context.tenant with
  | none => next { context with claims := some claims }
  | some tenant =>
    if tenant.id = claims.tenantId then next { context with claims := some claims }
    else reject .tenantMismatch
      [("host_tenant", tenant.id), ("token_tenant", claims.tenantId),
       ("user_id", toString claims.userId)]

/-- Verifies a token at the time of the request, which is read first. -/
def verifyToken (gate : Gate) (request : Http.Request) (token : String) :
    Except Panic (Except Token.Error Token.Claims) :=
  (timeOf request).bind fun now =>
    match Token.verify gate.key token (now / 1000) with
    | .ok claims => .ok (.ok claims)
    | .error (.error error) => .ok (.error error)
    | .error (.panic message) => .error (.text message)

/-- Verifies the token of a request where one is needed. -/
def authorize (gate : Gate) (access : Access) (request : Http.Request) (context : Context)
    (next : Context → Program Answer) : Program Answer :=
  match access with
  | .everyone => next context
  | .bearer =>
    match Credential.find request.headers gate.cookieFallback with
    | .error error => reject (credentialReason error) []
    | .ok (text, source) =>
      let token := String.ofList text
      match verifyToken gate request token with
      | .error panic => .done (.error panic)
      | .ok (.ok claims) => checkTenant context claims next
      | .ok (.error error) =>
        reject (tokenReason error)
          [("source", source.describe), ("token", fingerprint token)]

/-! ## Isolation -/

def noTenantEvent : Event :=
  .warn "no tenant for request transaction" [("reason", "tenant_unresolved")]

def failureEvent (message tenant : String) (error : Database.Error) : Event :=
  .error message [("error", error.message), ("tenant_id", tenant)]

def finishedElsewhereEvent (tenant : String) : Event :=
  .error "request transaction finalized outside the isolation stage" [("tenant_id", tenant)]

/-- Finishes the transaction of a request whose handler is through: it is committed if the
response is no error, and otherwise rolled back. -/
def finish (tenant : String) : Answer → Program Answer
  | .error panic => do
    Program.rollBack "panic"
    pure (.error panic)
  | .ok response =>
    if 400 ≤ response.status then do
      Program.rollBack "error_status"
      pure (.ok response)
    else do
      match ← Program.call .commit with
      | .ok () => pure (.ok response)
      | .error error => do
        Program.report (failureEvent "commit failed" tenant error)
        Program.refuse .internal

/-- Runs a handler on an open transaction that is bound to the tenant, and finishes that. -/
def serveBound (tenant : String) (context : Context) (handler : Context → Handling Answer) :
    Program Answer := do
  Program.change fun _ => ⟨.hold (), false⟩
  let answer ← (handler { context with transaction := some tenant }).toProgram.holding
    (.rollback tenant)
  match ← Program.takeTransaction.holding (.rollback tenant) with
  | some () => finish tenant answer
  | none => do
    Program.report (finishedElsewhereEvent tenant)
    Program.refuse .internal

/-- Opens a transaction, binds it to the tenant and runs the handler on it. -/
def isolate (gate : Gate) (context : Context) (handler : Context → Handling Answer) :
    Program Answer :=
  match context.tenant with
  | none => do
    Program.report noTenantEvent
    Program.refuse .tenantUnresolved
  | some tenant => do
    match ← Program.call .begin with
    | .error error => do
      Program.report (failureEvent "begin transaction failed" tenant.id error)
      Program.refuse .internal
    | .ok () => do
      match ← (Program.call (.bind gate.tenantSetting tenant.id)).holding .transaction with
      | .error error => do
        Program.report (failureEvent "binding tenant to transaction failed" tenant.id error)
        Program.rollBack "bind_failed"
        Program.refuse .internal
      | .ok () => serveBound tenant.id context handler

/-! ## All stages -/

/-- The fixed order: tenant, rate limit, authorization, isolation, handler. -/
def apply (gate : Gate) (access : Access) (handler : Handler) (request : Http.Request) :
    Program Answer :=
  resolveTenant gate request .fresh fun context =>
    limitRate gate request context fun context =>
      authorize gate access request context fun context =>
        isolate gate context (handler request)

end Gatehouse.Pipeline
