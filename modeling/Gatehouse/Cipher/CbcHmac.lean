import Gatehouse.Cipher.Aes
import Gatehouse.Digest.Sha256

/-! Authenticated encryption by composition: AES-128 in cipher block chaining mode, and the
first half of a SHA-256 authentication code over the associated data, the initialization
vector, the ciphertext and the length of the associated data. The first half of the key
authenticates, the second half encrypts. -/
namespace Gatehouse.CbcHmac

def macKey (key : Bytes) : Bytes := key.take 16

def cipherKey (key : Bytes) : Bytes := key.drop 16

/-- The 16-byte tag. -/
def tag (key iv associated ciphertext : Bytes) : Bytes :=
  (Sha256.authenticate (macKey key)
    (associated ++ iv ++ ciphertext ++ Bytes.ofNat 8 (8 * associated.length))).take 16

/-- Every block is decrypted and added to the block before it, the first to `previous`. -/
def unchain (keys : List Aes.Block) : Bytes → List Bytes → Bytes
  | _, [] => []
  | previous, block :: rest =>
    Bytes.xor (Aes.decrypt keys (Aes.Block.ofBytes block)).toBytes previous ++
      unchain keys block rest

/-- The text before its padding: n bytes of value n, with n from 1 to 16. -/
def unpad? (text : Bytes) : Option Bytes := do
  let last ← text.getLast?
  let n := last.toNat
  if 1 ≤ n ∧ n ≤ 16 ∧ n ≤ text.length ∧ (text.drop (text.length - n)).all (· == last) then
    some (text.take (text.length - n))
  else none

/-- The text of a ciphertext with the right tag. Sixteen bytes of the vector start the
chain; all of it is authenticated. -/
def decrypt? (key iv associated ciphertext given : Bytes) : Option Bytes :=
  if ciphertext.length % 16 = 0 ∧ tag key iv associated ciphertext = given then
    unpad? (unchain (Aes.roundKeys (cipherKey key)) (iv.take 16) (ciphertext.blocks 16))
  else none

end Gatehouse.CbcHmac
