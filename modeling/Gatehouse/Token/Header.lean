import Gatehouse.Bytes.Base64
import Gatehouse.Json.Parser
import Gatehouse.Json.Printer

/-! The protected header of a token: a JSON object that names the ciphers. Of members with one
key the last counts. The registered members must have their types, all others are free. -/
namespace Gatehouse.Token

/-- The content ciphers that work with a 32-byte key. -/
inductive Encryption
  | gcm
  | cbcHmac
  deriving DecidableEq, Repr

structure Header where
  encryption : Encryption
  /-- The text was compressed before it was encrypted. -/
  compressed : Bool
  deriving DecidableEq, Repr

/-- The type that a registered member must have. -/
inductive Kind
  | text
  | texts
  | textOrTexts
  | base64Url
  /-- A chain of certificates, each one in padded base-64. -/
  | certificates

def isText : Json String → Bool
  | .string _ => true
  | _ => false

def isCertificate : Json String → Bool
  | .string spelling => (Bytes.ofBase64? spelling.toList).isSome
  | _ => false

def Kind.admits : Kind → Json String → Bool
  | .text, value => isText value
  | .texts, .array items => items.all isText
  | .textOrTexts, .array items => items.all isText
  | .textOrTexts, value => isText value
  | .base64Url, .string spelling => (Bytes.ofBase64Url? spelling.toList).isSome
  | .certificates, .array items => items.all isCertificate
  | _, _ => false

/-- The member that counts. -/
def last? (key : String) (members : List (String × Json String)) : Option (Json String) :=
  (Json.valuesOf key members).getLast?

/-- Every member of the table that is present has its type. -/
def areWellTyped (table : List (String × Kind)) (members : List (String × Json String)) : Bool :=
  table.all fun (key, kind) => (last? key members).all kind.admits

/-- The registered parameters of a JSON web key. -/
def keyParameters : List (String × Kind) :=
  [("kty", .text), ("use", .text), ("alg", .text), ("kid", .text), ("x5u", .text),
   ("crv", .text), ("key_ops", .texts), ("x5c", .certificates), ("x5t", .base64Url),
   ("x5t#S256", .base64Url), ("k", .base64Url), ("n", .base64Url), ("e", .base64Url),
   ("d", .base64Url), ("p", .base64Url), ("q", .base64Url), ("dp", .base64Url),
   ("dq", .base64Url), ("qi", .base64Url), ("x", .base64Url), ("y", .base64Url)]

/-- A JSON web key: an object that names the type of the key, whatever the type is. -/
def isKey : Json String → Bool
  | .object members => (last? "kty" members).isSome && areWellTyped keyParameters members
  | _ => false

/-- The registered members of a header other than the key. -/
def registered : List (String × Kind) :=
  [("alg", .text), ("enc", .text), ("zip", .text), ("jku", .text), ("x5u", .text),
   ("kid", .text), ("typ", .text), ("cty", .text), ("url", .text), ("iss", .text),
   ("sub", .text), ("aud", .textOrTexts), ("crit", .texts), ("x5t", .base64Url),
   ("x5t#S256", .base64Url), ("x5c", .certificates), ("nonce", .base64Url), ("apu", .base64Url),
   ("apv", .base64Url)]

namespace Header

/-- Every registered member that is present has its type. -/
def isWellTyped (members : List (String × Json String)) : Bool :=
  areWellTyped registered members && (last? "jwk" members).all isKey

def encryption? : Option (Json String) → Option Encryption
  | some (.string "A256GCM") => some .gcm
  | some (.string "A128CBC-HS256") => some .cbcHmac
  | _ => none

/-- Whether the header asks for compression; there is one known method. -/
def compressed? : Option (Json String) → Option Bool
  | none => some false
  | some (.string "DEF") => some true
  | some _ => none

/-- The key is used directly, so the algorithm must be `dir`. -/
def usesKeyDirectly : Option (Json String) → Bool
  | some (.string "dir") => true
  | _ => false

def ofMembers? (members : List (String × Json String)) : Option Header :=
  if isWellTyped members ∧ usesKeyDirectly (last? "alg" members) then do
    some ⟨← encryption? (last? "enc" members), ← compressed? (last? "zip" members)⟩
  else none

/-- The deepest nesting that a header may have. -/
def maxLevels : Nat := 127

def parse? (bytes : Bytes) : Option Header :=
  match Json.parseStrict? maxLevels bytes with
  | some (.object members) => ofMembers? members
  | _ => none

/-- The header of every issued token. -/
def issued : Json String :=
  .object [("alg", .string "dir"), ("enc", .string "A256GCM"), ("typ", .string "JWT")]

end Header

end Gatehouse.Token
