import Gatehouse.Bytes.Hex
import Gatehouse.Text.Blank
import Gatehouse.Token.Error

/-! Keys: 32 secret bytes, given as they are or in hexadecimal. -/
namespace Gatehouse.Token

structure Key where
  bytes : Bytes
  length_eq : bytes.length = 32

namespace Key

def ofBytes (bytes : Bytes) : Except Error Key :=
  if h : bytes.length = 32 then .ok ⟨bytes, h⟩ else .error (.keySize bytes.length)

/-- Reads hexadecimal digits with any blanks around them. -/
def ofHex (text : String) : Except Error Key :=
  match Bytes.ofHex? (Text.trim text.toList) with
  | none => .error .keyEncoding
  | some bytes => ofBytes bytes

/-- What diagnostics show of a key: the cipher, never the bytes. -/
def describe (_key : Key) : String :=
  "TokenService \x7b enc: \"A256GCM\" \x7d"

end Key

end Gatehouse.Token
