import Gatehouse.Database.Error
import Gatehouse.Http.Message
import Gatehouse.Log

/-! Why a request is not served, and what the client is told. Only a code and a fixed text go
into the response; the details go to the log. -/
namespace Gatehouse

inductive UnauthorizedReason
  | missingCredential
  | malformedCredential
  | invalidToken
  | tokenExpired
  | tokenNotYetValid
  | tenantMismatch
  deriving DecidableEq, Repr

namespace UnauthorizedReason

/-- What the client is told. A malformed credential is told as a missing one. -/
def code : UnauthorizedReason → String
  | .missingCredential => "MISSING_CREDENTIAL"
  | .malformedCredential => "MISSING_CREDENTIAL"
  | .invalidToken => "INVALID_TOKEN"
  | .tokenExpired => "TOKEN_EXPIRED"
  | .tokenNotYetValid => "TOKEN_NOT_YET_VALID"
  | .tenantMismatch => "TENANT_MISMATCH"

/-- What the log is told. -/
def name : UnauthorizedReason → String
  | .missingCredential => "missing"
  | .malformedCredential => "malformed"
  | .invalidToken => "invalid"
  | .tokenExpired => "expired"
  | .tokenNotYetValid => "not_yet_valid"
  | .tenantMismatch => "tenant_mismatch"

end UnauthorizedReason

inductive Refusal
  | tenantUnresolved
  | unauthorized (reason : UnauthorizedReason)
  | rateLimitUnavailable
  | internal
  deriving DecidableEq, Repr

namespace Refusal

def message : Refusal → String
  | .tenantUnresolved => "tenant could not be resolved"
  | .unauthorized reason => s!"unauthorized ({reason.name})"
  | .rateLimitUnavailable => "rate limit store unavailable"
  | .internal => "internal server error"

def status : Refusal → Nat
  | .tenantUnresolved => 400
  | .unauthorized _ => 401
  | .rateLimitUnavailable => 503
  | .internal => 500

def code : Refusal → String
  | .tenantUnresolved => "TENANT_UNRESOLVED"
  | .unauthorized reason => reason.code
  | .rateLimitUnavailable => "SERVICE_UNAVAILABLE"
  | .internal => "INTERNAL_SERVER_ERROR"

/-- The text for the client. -/
def publicMessage : Refusal → String
  | .tenantUnresolved => "unknown tenant"
  | .unauthorized _ => "unauthorized"
  | .rateLimitUnavailable => "service temporarily unavailable"
  | .internal => "internal server error"

def response (refusal : Refusal) : Http.Response :=
  .json refusal.status <| .object
    [("error", .object
      [("code", .string refusal.code), ("message", .string refusal.publicMessage)])]

/-- The event that goes with refusing a request because its transaction failed. -/
def transactionEvent (error : Database.Error) : Event :=
  .error "request transaction unusable" [("error", error.message)]

/-- The event that goes with refusing a request because a query failed. -/
def queryEvent (detail : String) : Event :=
  .error "repository query failed" [("error", detail)]

/-- The event that goes with refusing a request that has no transaction. -/
def noTransactionEvent : Event :=
  .error "no request transaction; isolation stage not applied" []

end Refusal

end Gatehouse
