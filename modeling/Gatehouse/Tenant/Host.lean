import Gatehouse.Http.Headers
import Gatehouse.Http.Target
import Gatehouse.Text.Pieces

/-! The host that a request is for, and the tenant label in it. The host is the first entry of
the forwarded host, else the host header, else the authority of the target; each is used only
if it can be read and is not blank. The label is the part before the first dot. -/
namespace Gatehouse.Tenant

/-- The first entry of the forwarded host, if it is of use. -/
def forwardedHost? (headers : Http.Headers) : Option (List Char) :=
  match (headers.first? "x-forwarded-host").bind Text.readable? with
  | none => none
  | some value =>
    let entry := Text.trim (Text.before ',' value)
    if entry.isEmpty then none else some entry

/-- The one source that decides the host. -/
def namedHost? (headers : Http.Headers) (target : Http.Target) : Option (List Char) :=
  (forwardedHost? headers).or <| (headers.trimmed? "host").or target.host?

/-- The host of a request without its port: what stands before the first colon. -/
def effectiveHost? (headers : Http.Headers) (target : Http.Target) : Option (List Char) := do
  let host := Text.before ':' (← namedHost? headers target)
  if host.isEmpty then none else some host

/-- The first label of a host, in lower case. -/
def label? (host : List Char) : Option (List Char) :=
  let label := Text.before '.' host
  if label.isEmpty then none else some (Text.lower label)

/-- The label that decides the tenant of a request. -/
def requestLabel? (headers : Http.Headers) (target : Http.Target) : Option (List Char) :=
  (effectiveHost? headers target).bind label?

end Gatehouse.Tenant
