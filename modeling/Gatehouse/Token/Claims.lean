import Gatehouse.Json.Parser
import Gatehouse.Json.Printer
import Gatehouse.Text.Integer

/-! The payload of a token: who the bearer is, for which tenant, in which role and when. It is
written as an object. It is read from an object that has each field once, among any other
members, or from an array of the six values in order. -/
namespace Gatehouse.Token

/-- A role is known by its number or by its name. -/
inductive Role
  | id (value : Int)
  | name (value : String)
  deriving DecidableEq, Repr

/-- A text that spells a 64-bit integer is a role number, any other a role name. -/
def Role.ofText (text : String) : Role :=
  match Text.readInt? Text.minI64 Text.maxI64 text.toList with
  | some value => .id value
  | none => .name text

/-- Times are whole seconds since the epoch. -/
structure Claims where
  userId : Int
  tenantId : String
  role : Role
  issuedAt : Int
  notBefore : Int
  expiresAt : Int
  deriving DecidableEq, Repr

def Role.toJson : Role → Json String
  | .id value => .int value
  | .name value => .string value

namespace Claims

def toJson (claims : Claims) : Json String :=
  .object
    [("user_id", .int claims.userId), ("tenant_id", .string claims.tenantId),
     ("role", claims.role.toJson), ("iat", .int claims.issuedAt),
     ("nbf", .int claims.notBefore), ("exp", .int claims.expiresAt)]

/-- An integer literal in the 64-bit range. -/
def readInt? : Json (Option String) → Option Int
  | .number (.integer n) => if Text.minI64 ≤ n ∧ n ≤ Text.maxI64 then some n else none
  | _ => none

def readText? : Json (Option String) → Option String
  | .string text => text
  | _ => none

def readRole? (value : Json (Option String)) : Option Role :=
  match value with
  | .string text => text.map .name
  | _ => (readInt? value).map .id

def ofValues? (userId tenantId role issuedAt notBefore expiresAt : Json (Option String)) :
    Option Claims := do
  some ⟨← readInt? userId, ← readText? tenantId, ← readRole? role, ← readInt? issuedAt,
    ← readInt? notBefore, ← readInt? expiresAt⟩

/-- The value of a member that occurs exactly once. -/
def field? (key : String) (members : List (Option String × Json (Option String))) :
    Option (Json (Option String)) :=
  match Json.valuesOf (some key) members with
  | [value] => some value
  | _ => none

def ofJson? : Json (Option String) → Option Claims
  | .object members =>
    if members.all fun member => member.1.isSome then do
      ofValues? (← field? "user_id" members) (← field? "tenant_id" members)
        (← field? "role" members) (← field? "iat" members) (← field? "nbf" members)
        (← field? "exp" members)
    else none
  | .array [userId, tenantId, role, issuedAt, notBefore, expiresAt] =>
    ofValues? userId tenantId role issuedAt notBefore expiresAt
  | _ => none

/-- The claims that a payload states. -/
def parse? (payload : Bytes) : Option Claims :=
  (Json.parse? payload).bind ofJson?

/-- The payload that states the claims. -/
def payload (claims : Claims) : String :=
  claims.toJson.render

end Claims

end Gatehouse.Token
