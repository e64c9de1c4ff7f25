import Gatehouse.Address
import Gatehouse.Http.Headers
import Gatehouse.Text.Pieces

/-! Who a request counts against: the address that a proxy reports, else the first forwarded
address, else the address of the peer. -/
namespace Gatehouse.RateLimit

/-- The name shared by all requests that do not tell where they come from. -/
def unknownClient : List Char := "unknown".toList

/-- The first entry of the forwarding list, if it is not blank. -/
def forwardedClient? (headers : Http.Headers) : Option (List Char) := do
  let entry := Text.trim (Text.before ',' (← headers.trimmed? "x-forwarded-for"))
  if entry.isEmpty then none else some entry

def client (headers : Http.Headers) (peer : Option Address) : List Char :=
  ((headers.trimmed? "x-real-ip").or <| (forwardedClient? headers).or <|
    peer.map Address.toText).getD unknownClient

end Gatehouse.RateLimit
