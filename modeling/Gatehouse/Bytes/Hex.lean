import Gatehouse.Bytes.Basic

/-! Hexadecimal text: two digits a byte, high half first. Writing uses lower case, reading
takes either case. -/
namespace Gatehouse.Bytes

def hexDigit (n : Nat) : Char :=
  if n < 10 then Char.ofNat (48 + n) else Char.ofNat (87 + n)

def hexValue? (c : Char) : Option Nat :=
  if '0' ≤ c ∧ c ≤ '9' then some (c.toNat - 48)
  else if 'a' ≤ c ∧ c ≤ 'f' then some (c.toNat - 87)
  else if 'A' ≤ c ∧ c ≤ 'F' then some (c.toNat - 55)
  else none

def toHex (bytes : Bytes) : List Char :=
  bytes.flatMap fun b => [hexDigit (b.toNat / 16), hexDigit (b.toNat % 16)]

/-- Refuses a text of odd length and a text with any other character. -/
def ofHex? : List Char → Option Bytes
  | [] => some []
  | [_] => none
  | high :: low :: rest => do
    let h ← hexValue? high
    let l ← hexValue? low
    let bytes ← ofHex? rest
    some (UInt8.ofNat (16 * h + l) :: bytes)

theorem length_of_ofHex? {text : List Char} {bytes : Bytes} (h : ofHex? text = some bytes) :
    text.length = 2 * bytes.length := by
  fun_induction ofHex? text generalizing bytes with
  | case1 => simp_all
  | case2 => simp at h
  | case3 high low rest ih =>
    simp only [Option.bind_eq_bind, Option.bind_eq_some_iff, Option.some.injEq] at h
    obtain ⟨_, _, _, _, tail, htail, rfl⟩ := h
    simp [ih htail]
    omega

end Gatehouse.Bytes
