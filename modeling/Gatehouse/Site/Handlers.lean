import Gatehouse.Pipeline.Gate

/-! The operations of the service: whether it is up, which tenant a host stands for, and whose
token a request bears. -/
namespace Gatehouse.Site

def health : Handler := fun _ _ =>
  .done (.ok (.json 200 (.object [("status", .string "ok")])))

/-- An unset setting and an empty one are the same. -/
def nonEmpty (value : Option String) : Option String :=
  value.filter fun text => !text.isEmpty

def textOrNull : Option String → Json String
  | none => .null
  | some text => .string text

def tenantBody (tenant : Tenant) (sessionTenant : Option String) : Json String :=
  .object
    [("tenant_id", .string tenant.id), ("domain_name", .string tenant.domain),
     ("session_tenant_id", textOrNull sessionTenant)]

/-- The tenant of the host, and the tenant that the database session is bound to. -/
def currentTenant (gate : Gate) : Handler := fun _ context => do
  match ← context.requireTenant with
  | .error refusal => Handling.refuse refusal
  | .ok tenant =>
    match ← context.requireTransaction with
    | .error refusal => Handling.refuse refusal
    | .ok _ =>
      match ← Handling.setting gate.tenantSetting with
      | .ok value => pure (.ok (.json 200 (tenantBody tenant (nonEmpty value))))
      | .error (.transaction error) => do
        Handling.report (Refusal.transactionEvent error)
        Handling.refuse .internal
      | .error (.query detail) => do
        Handling.report (Refusal.queryEvent detail)
        Handling.refuse .internal

def meBody (tenant : Tenant) (claims : Token.Claims) : Json String :=
  .object
    [("user_id", .int claims.userId), ("tenant_id", .string tenant.id),
     ("domain_name", .string tenant.domain), ("role", claims.role.toJson)]

/-- Who the bearer of the token is. -/
def me : Handler := fun _ context => do
  match ← context.requireTenant with
  | .error refusal => Handling.refuse refusal
  | .ok tenant =>
    match ← context.requireClaims with
    | .error refusal => Handling.refuse refusal
    | .ok claims => pure (.ok (.json 200 (meBody tenant claims)))

end Gatehouse.Site
