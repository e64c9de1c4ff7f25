import Gatehouse.Http.Headers
import Gatehouse.Text.Pieces

/-! The bearer token of a request. It stands in the authorization header, as a scheme and a
token with blanks between. If that header is absent, a cookie may hold the token, where the
service allows it. -/
namespace Gatehouse

inductive CredentialError
  | missing
  | malformed
  deriving DecidableEq, Repr

def CredentialError.message : CredentialError → String
  | .missing => "missing credential"
  | .malformed => "malformed authorization header"

/-- Where a token was found. -/
inductive CredentialSource
  | header
  | cookie
  deriving DecidableEq, Repr

def CredentialSource.describe : CredentialSource → String
  | .header => "Header"
  | .cookie => "Cookie"

namespace Credential

/-- The token of an authorization value. Of two words the first must be the scheme. -/
def parseBearer (value : List Char) : Except CredentialError (List Char) :=
  match Text.words value with
  | [] => .error .missing
  | [scheme, token] => if Text.lower scheme = "bearer".toList then .ok token else .error .malformed
  | _ => .error .malformed

/-- The names and values of all cookies that can be read, in order. -/
def cookies (headers : Http.Headers) : List (List Char × List Char) :=
  ((headers.values "cookie").filterMap Text.readable?).flatMap fun value =>
    (value.splitOnP (· == ';')).filterMap fun pair => Text.splitOnce '=' (Text.trim pair)

/-- The value of the first cookie with the right name, without blanks and quotes around it. -/
def cookieToken? (headers : Http.Headers) : Option (List Char) := do
  let (_, value) ← (cookies headers).find? fun cookie => cookie.1 == "Authorization".toList
  let token := Text.trimOf '"' (Text.trim value)
  if token.isEmpty then none else some token

def cookieSource (headers : Http.Headers) : Except CredentialError (List Char × CredentialSource) :=
  match cookieToken? headers with
  | some token => .ok (token, .cookie)
  | none => .error .missing

/-- The token of a request and its source. -/
def find (headers : Http.Headers) (cookieFallback : Bool) :
    Except CredentialError (List Char × CredentialSource) :=
  match headers.first? "authorization" with
  | some value =>
    match Text.readable? value with
    | none => .error .malformed
    | some text => (parseBearer text).map fun token => (token, .header)
  | none => if cookieFallback then cookieSource headers else .error .missing

end Credential

end Gatehouse
