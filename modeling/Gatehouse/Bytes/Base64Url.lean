import Gatehouse.Bytes.Basic

/-! The URL-safe base-64 alphabet without padding. Three bytes are four characters; a last
group of one or two bytes is two or three characters, and its unused low bits are zero.
Reading is strict: a foreign character, padding, a lone last character or a set unused bit
refuses the text, so each byte string has one spelling. -/
namespace Gatehouse.Bytes

/-- The character of a six-bit value. -/
def base64Char (n : Nat) : Char :=
  if n < 26 then Char.ofNat (65 + n)
  else if n < 52 then Char.ofNat (71 + n)
  else if n < 62 then Char.ofNat (n - 4)
  else if n = 62 then '-'
  else '_'

def base64Value? (c : Char) : Option Nat :=
  if 'A' ≤ c ∧ c ≤ 'Z' then some (c.toNat - 65)
  else if 'a' ≤ c ∧ c ≤ 'z' then some (c.toNat - 71)
  else if '0' ≤ c ∧ c ≤ '9' then some (c.toNat + 4)
  else if c = '-' then some 62
  else if c = '_' then some 63
  else none

def toBase64Url : Bytes → List Char
  | [] => []
  | [a] => [base64Char (a.toNat / 4), base64Char (a.toNat % 4 * 16)]
  | [a, b] =>
    [base64Char (a.toNat / 4), base64Char (a.toNat % 4 * 16 + b.toNat / 16),
     base64Char (b.toNat % 16 * 4)]
  | a :: b :: c :: rest =>
    base64Char (a.toNat / 4) :: base64Char (a.toNat % 4 * 16 + b.toNat / 16) ::
      base64Char (b.toNat % 16 * 4 + c.toNat / 64) :: base64Char (c.toNat % 64) ::
      toBase64Url rest

def ofBase64Url? : List Char → Option Bytes
  | [] => some []
  | [_] => none
  | [p, q] => do
    let x ← base64Value? p
    let y ← base64Value? q
    if y % 16 = 0 then some [UInt8.ofNat (x * 4 + y / 16)] else none
  | [p, q, r] => do
    let x ← base64Value? p
    let y ← base64Value? q
    let z ← base64Value? r
    if z % 4 = 0 then
      some [UInt8.ofNat (x * 4 + y / 16), UInt8.ofNat (y % 16 * 16 + z / 4)]
    else none
  | p :: q :: r :: s :: rest => do
    let x ← base64Value? p
    let y ← base64Value? q
    let z ← base64Value? r
    let w ← base64Value? s
    let bytes ← ofBase64Url? rest
    some (UInt8.ofNat (x * 4 + y / 16) :: UInt8.ofNat (y % 16 * 16 + z / 4) ::
      UInt8.ofNat (z % 4 * 64 + w) :: bytes)

end Gatehouse.Bytes
