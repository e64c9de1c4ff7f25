import Gatehouse.Text.Blank
import Gatehouse.Token.Claims
import Gatehouse.Token.Envelope

/-! Issuing and verifying tokens. A token is valid from its first second on and before its
last one, for the tenant that it names. -/
namespace Gatehouse.Token

/-- The longest lifetime in nanoseconds: its milliseconds are the largest 64-bit integer. -/
def longestLifetime : Int := 9223372036854775807000000

/-- How long a token is to live; a token with a negative lifetime has expired when it is
issued. -/
structure Lifetime where
  nanoseconds : Int
  lower : -longestLifetime ≤ nanoseconds
  upper : nanoseconds ≤ longestLifetime

namespace Lifetime

/-- `seconds + nanoseconds / 10^9`, if that is in range; the fraction must be below one. -/
def ofParts? (seconds : Int) (nanoseconds : Nat) : Option Lifetime :=
  let total := seconds * 1000000000 + nanoseconds
  if h : -longestLifetime ≤ total ∧ total ≤ longestLifetime ∧ nanoseconds < 1000000000 then
    some ⟨total, h.1, h.2.1⟩
  else none

/-- Whole seconds, a started one counting in full. -/
def seconds (lifetime : Lifetime) : Int :=
  -(-lifetime.nanoseconds / 1000000000)

end Lifetime

/-- A sum kept in the range of 64-bit integers. -/
def addSaturating (a b : Int) : Int :=
  max Text.minI64 (min Text.maxI64 (a + b))

/-- The claims of a token issued at second `now`. -/
def claimsAt (userId : Int) (tenantId : String) (role : Role) (lifetime : Lifetime) (now : Int) :
    Claims :=
  ⟨userId, tenantId, role, now, now, addSaturating now lifetime.seconds⟩

/-- The token of the claims. The initialization vector must never be used twice. -/
def issue (key : Key) (iv : Bytes) (claims : Claims) : String :=
  sealToken key iv (Bytes.ofText claims.payload)

/-- Whether the claims hold at second `now`. -/
def Claims.check (claims : Claims) (now : Int) : Except Failure Claims :=
  if Text.isBlankText claims.tenantId.toList then .error (.error .invalid)
  else if claims.expiresAt ≤ now then .error (.error .expired)
  else if now < claims.notBefore then .error (.error .notYetValid)
  else .ok claims

/-- The claims of a token that was made with the key and is valid at second `now`. -/
def verify (key : Key) (token : String) (now : Int) : Except Failure Claims := do
  let payload ← openToken key token
  match Claims.parse? payload with
  | none => .error (.error .invalid)
  | some claims => claims.check now

end Gatehouse.Token
