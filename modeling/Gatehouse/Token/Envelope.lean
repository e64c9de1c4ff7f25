import Gatehouse.Cipher.CbcHmac
import Gatehouse.Cipher.Gcm
import Gatehouse.Deflate.Inflate
import Gatehouse.Token.Header
import Gatehouse.Token.Key

/-! The compact form of an encrypted message: five base-64 segments between dots, which are the
protected header, an encrypted key, the initialization vector, the ciphertext and the tag. The
text of the header segment is the associated data of the cipher. The key segment is empty,
because sender and receiver share the key. -/
namespace Gatehouse.Token

/-- The pieces of a text between its dots. -/
def segments (token : List Char) : List (List Char) :=
  token.splitOnP (· == '.')

def joinSegments (pieces : List (List Char)) : List Char :=
  ['.'].intercalate pieces

/-- A message in five segments, decoded. -/
structure Envelope where
  /-- The header segment as it was sent. -/
  associated : Bytes
  header : Header
  iv : Bytes
  ciphertext : Bytes
  tag : Bytes

namespace Envelope

/-- Reads five segments. The key segment must be empty. -/
def parse? (token : List Char) : Option Envelope :=
  match segments token with
  | [header, [], iv, ciphertext, tag] => do
    let headerBytes ← Bytes.ofBase64Url? header
    let ivBytes ← Bytes.ofBase64Url? iv
    let textBytes ← Bytes.ofBase64Url? ciphertext
    some ⟨header.map fun c => UInt8.ofNat c.toNat, ← Header.parse? headerBytes, ivBytes, textBytes,
      ← Bytes.ofBase64Url? tag⟩
  | _ => none

def maxIvLength : Nat := 128

/-- The text of a message under `A256GCM`, still compressed if it was. An empty tag is refused
before the vector is looked at. -/
def decryptGcm (key : Key) (e : Envelope) : Except Failure Bytes :=
  if e.tag.isEmpty then .error (.error .invalid)
  else if e.iv.isEmpty then .error (.panic "an IV is required for this cipher")
  else if maxIvLength < e.iv.length then .error (.error .invalid)
  else match Gcm.decrypt? (Gcm.aes key.bytes) e.iv e.associated e.ciphertext e.tag with
    | none => .error (.error .invalid)
    | some text => .ok text

/-- The text of a message under `A128CBC-HS256`, still compressed if it was. The tag is compared
last, so a vector that is too short shows first. -/
def decryptCbcHmac (key : Key) (e : Envelope) : Except Failure Bytes :=
  if e.iv.isEmpty then .error (.panic "an IV is required for this cipher")
  else if e.iv.length < 16 then .error (.panic "assertion failed: iv_len <= iv.len()")
  else match CbcHmac.decrypt? key.bytes e.iv e.associated e.ciphertext e.tag with
    | none => .error (.error .invalid)
    | some text => .ok text

def decrypt (key : Key) (e : Envelope) : Except Failure Bytes := do
  let text ← match e.header.encryption with
    | .gcm => decryptGcm key e
    | .cbcHmac => decryptCbcHmac key e
  if e.header.compressed then
    match Deflate.inflate? text with
    | none => .error (.error .invalid)
    | some text => .ok text
  else .ok text

end Envelope

/-- The payload of a token that was made with the key. -/
def openToken (key : Key) (token : String) : Except Failure Bytes :=
  match Envelope.parse? token.toList with
  | none => .error (.error .invalid)
  | some envelope => envelope.decrypt key

/-- The token of a payload, under `A256GCM`. -/
def sealToken (key : Key) (iv : Bytes) (payload : Bytes) : String :=
  let header := Bytes.toBase64Url (Bytes.ofText Header.issued.render)
  let associated : Bytes := header.map fun c => UInt8.ofNat c.toNat
  let (ciphertext, tag) := Gcm.encrypt (Gcm.aes key.bytes) iv associated payload
  String.ofList <| joinSegments
    [header, [], Bytes.toBase64Url iv, Bytes.toBase64Url ciphertext, Bytes.toBase64Url tag]

end Gatehouse.Token
