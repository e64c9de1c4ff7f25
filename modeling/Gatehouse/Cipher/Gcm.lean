import Gatehouse.Cipher.Aes

/-! Galois/Counter mode over AES: the text is added to a key stream of encrypted counter
blocks, and a 16-byte tag over the associated data and the ciphertext guards both. Only as
many bytes of the tag are compared as are given, one at least. -/
namespace Gatehouse.Gcm

/-- An element of the field of 2^128 elements. Bit 127 of the word is the coefficient of 1. -/
abbrev Element := BitVec 128

/-- The factor of the reduction modulo 1 + x + x^2 + x^7 + x^128. -/
def reduction : Element := 0xE1#8 ++ 0#120

/-- `sum + y * x`, reading the remaining `count` bits of `y` from coefficient `128 - count` up. -/
def multiplyFrom : Nat → Element → Element → Element → Element
  | 0, _, _, sum => sum
  | count + 1, x, y, sum =>
    let sum := if y.getLsbD count then sum ^^^ x else sum
    let x := if x.getLsbD 0 then (x >>> 1) ^^^ reduction else x >>> 1
    multiplyFrom count x y sum

def multiply (x y : Element) : Element :=
  multiplyFrom 128 x y 0

/-- Sixteen bytes as an element; a shorter string is filled with zeros at its end. -/
def elementOf (bytes : Bytes) : Element :=
  BitVec.ofNat 128 (bytes ++ List.replicate (16 - bytes.length) 0).toNat

/-- The polynomial hash of a byte string under the hash key `h`, from a given value on. -/
def hashFrom (h : Element) (start : Element) (bytes : Bytes) : Element :=
  (bytes.blocks 16).foldl (fun y block => multiply (y ^^^ elementOf block) h) start

/-- Two lengths in bits, each in eight bytes. -/
def lengths (first second : Nat) : Bytes :=
  Bytes.ofNat 8 (8 * first) ++ Bytes.ofNat 8 (8 * second)

/-- A cipher on 16-byte blocks. -/
abbrev BlockCipher := Bytes → Bytes

/-- AES under a key of 16 or 32 bytes. -/
def aes (key : Bytes) : BlockCipher :=
  let keys := Aes.roundKeys key
  fun block => (Aes.encrypt keys (Aes.Block.ofBytes block)).toBytes

/-- The hash key: the encrypted zero block. -/
def hashKey (cipher : BlockCipher) : Element :=
  elementOf (cipher (List.replicate 16 0))

/-- The counter block that masks the tag. An initialization vector of twelve bytes is used as
it stands; any other length is hashed. -/
def firstCounter (cipher : BlockCipher) (iv : Bytes) : Element :=
  if iv.length = 12 then elementOf (iv ++ [0, 0, 0, 1])
  else
    let h := hashKey cipher
    multiply (hashFrom h 0 iv ^^^ elementOf (lengths 0 iv.length)) h

/-- The next counter block: the last four bytes count modulo 2^32. -/
def nextCounter (counter : Element) : Element :=
  counter.extractLsb' 32 96 ++ (counter.extractLsb' 0 32 + 1#32)

def counterBytes (counter : Element) : Bytes :=
  Bytes.ofNat 16 counter.toNat

/-- Adds the key stream that starts at the given counter to the blocks of a text. -/
def maskBlocks (cipher : BlockCipher) : Element → List Bytes → Bytes
  | _, [] => []
  | counter, block :: rest =>
    Bytes.xor block (cipher (counterBytes counter)) ++
      maskBlocks cipher (nextCounter counter) rest

/-- Encrypts and decrypts alike. -/
def mask (cipher : BlockCipher) (iv text : Bytes) : Bytes :=
  maskBlocks cipher (nextCounter (firstCounter cipher iv)) (text.blocks 16)

/-- The full 16-byte tag of a ciphertext and its associated data. -/
def tag (cipher : BlockCipher) (iv associated ciphertext : Bytes) : Bytes :=
  let h := hashKey cipher
  let y := hashFrom h (hashFrom h 0 associated) ciphertext
  let s := multiply (y ^^^ elementOf (lengths associated.length ciphertext.length)) h
  Bytes.xor (counterBytes s) (cipher (counterBytes (firstCounter cipher iv)))

/-- The ciphertext and the tag of a text. -/
def encrypt (cipher : BlockCipher) (iv associated text : Bytes) : Bytes × Bytes :=
  let ciphertext := mask cipher iv text
  (ciphertext, tag cipher iv associated ciphertext)

/-- The text of a ciphertext whose tag, of one to sixteen bytes, begins the full tag. -/
def decrypt? (cipher : BlockCipher) (iv associated ciphertext given : Bytes) : Option Bytes :=
  if 1 ≤ given.length ∧ given.length ≤ 16 ∧
      (tag cipher iv associated ciphertext).take given.length = given then
    some (mask cipher iv ciphertext)
  else none

end Gatehouse.Gcm
