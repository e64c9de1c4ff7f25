import Gatehouse.Address
import Gatehouse.Http.Headers
import Gatehouse.Http.Target
import Gatehouse.Json.Printer

/-! Requests as far as the service looks at them, and responses. -/
namespace Gatehouse.Http

structure Request where
  method : String
  target : Target
  headers : Headers
  /-- The other end of the connection. -/
  peer : Option Address
  /-- What the wall clock stands at while the request is served, in milliseconds. -/
  now : Int
  deriving DecidableEq, Repr

structure Response where
  status : Nat
  headers : Headers
  body : String
  deriving DecidableEq, Repr

namespace Response

/-- A response without headers and body. -/
def bare (status : Nat) : Response :=
  ⟨status, .empty, ""⟩

def json (status : Nat) (body : Json String) : Response :=
  ⟨status, ⟨[("content-type", Bytes.ofText "application/json")]⟩, body.render⟩

def text (status : Nat) (body : String) : Response :=
  ⟨status, ⟨[("content-type", Bytes.ofText "text/plain; charset=utf-8")]⟩, body⟩

def setHeader (response : Response) (name value : String) : Response :=
  { response with headers := response.headers.set name (Bytes.ofText value) }

def addHeader (response : Response) (name value : String) : Response :=
  { response with headers := response.headers.add name (Bytes.ofText value) }

end Response

end Gatehouse.Http
