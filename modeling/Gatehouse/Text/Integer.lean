import Gatehouse.Text.Ascii

/-! Decimal integers in configuration and on the command line: an optional sign and at
least one ASCII digit, with nothing before, between or after. A minus sign is read only
where negative values exist; the value must lie in the range of its type. -/
namespace Gatehouse.Text

def digitValue (c : Char) : Nat :=
  c.toNat - '0'.toNat

/-- The value of a digit string, most significant digit first. -/
def digitsValue (digits : List Char) : Nat :=
  digits.foldl (fun value c => 10 * value + digitValue c) 0

/-- A non-empty string of digits. -/
def readDigits? (text : List Char) : Option Nat :=
  if text ≠ [] ∧ text.all isDigit then some (digitsValue text) else none

/-- A natural number, possibly with a plus sign, at most `bound`. -/
def readNat? (bound : Nat) (text : List Char) : Option Nat := do
  let digits := match text with
    | '+' :: rest => rest
    | _ => text
  let value ← readDigits? digits
  if value ≤ bound then some value else none

/-- An integer between `low` and `high`, possibly with a sign. -/
def readInt? (low high : Int) (text : List Char) : Option Int := do
  let value ← match text with
    | '-' :: rest => (readDigits? rest).map fun n => -(n : Int)
    | '+' :: rest => (readDigits? rest).map fun n => (n : Int)
    | _ => (readDigits? text).map fun n => (n : Int)
  if low ≤ value ∧ value ≤ high then some value else none

/-- The largest values of the fixed-width types, and the range of 64-bit integers. -/
def maxU16 : Nat := 65535
def maxU32 : Nat := 4294967295
def maxU64 : Nat := 18446744073709551615
def minI64 : Int := -9223372036854775808
def maxI64 : Int := 9223372036854775807

end Gatehouse.Text
