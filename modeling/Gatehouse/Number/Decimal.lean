import Gatehouse.Number.Binary64
import Gatehouse.Text.Integer

/-! Decimal text of a double: an optional sign, then digits with an optional point among or
beside them and an optional exponent, or a word for infinity or for no number in any case.
The value is the double nearest to the number that the digits spell. -/
namespace Gatehouse.Number

/-- `digits * 10^power`, exactly as written. -/
structure Decimal where
  digits : Nat
  power : Int

/-- The double nearest to a decimal. Powers that are out of reach for any digits are settled
by the number of digits, so that no huge power of ten is ever computed. -/
def Decimal.toFloat (d : Decimal) : Float :=
  if d.digits = 0 then 0
  else
    let magnitude : Int := d.digits.log2 / 3 + 1 + d.power
    if magnitude < -400 then 0
    else if 400 < (d.digits.log2 / 4 : Nat) + d.power then 1 / 0
    else if 0 ≤ d.power then nearest (d.digits * Nat.pow 10 d.power.toNat) 1
    else nearest d.digits (Nat.pow 10 (-d.power).toNat)

/-- The leading digits that fit in 64 bits, with as many powers of ten as digits were dropped. -/
def Decimal.leading (digits : Nat) (power : Int) : Decimal :=
  if digits ≤ Text.maxU64 then ⟨digits, power⟩ else leading (digits / 10) (power + 1)
termination_by digits

/-- Whether a decimal is in the range of doubles if only its leading digits count and they are
rounded before the power of ten multiplies them. Close to the upper end of the range the two
roundings may differ from one. -/
def Decimal.isInRange (d : Decimal) : Bool :=
  let lead := leading d.digits d.power
  if lead.digits = 0 ∨ lead.power < 0 then true
  else if 308 < lead.power then false
  else (nearest lead.digits 1 * nearest (Nat.pow 10 lead.power.toNat) 1).isFinite

/-- An exponent: a sign and at least one digit. -/
def readExponent? (text : List Char) : Option Int :=
  match text with
  | '-' :: rest => (Text.readDigits? rest).map fun n => -(n : Int)
  | '+' :: rest => (Text.readDigits? rest).map fun n => (n : Int)
  | _ => (Text.readDigits? text).map fun n => (n : Int)

/-- Digits, an optional point and an optional exponent. At least one digit must stand before
or after the point. -/
def readDecimal? (text : List Char) : Option Decimal := do
  let whole := text.takeWhile Text.isDigit
  let rest := text.dropWhile Text.isDigit
  let (fraction, rest) := match rest with
    | '.' :: more => (more.takeWhile Text.isDigit, more.dropWhile Text.isDigit)
    | _ => ([], rest)
  let digits ← Text.readDigits? (whole ++ fraction)
  let exponent ← match rest with
    | [] => some 0
    | c :: more => if c = 'e' ∨ c = 'E' then readExponent? more else none
  some ⟨digits, exponent - fraction.length⟩

/-- The double that a text spells. -/
def readFloat? (text : List Char) : Option Float :=
  let (negative, rest) := match text with
    | '-' :: rest => (true, rest)
    | '+' :: rest => (false, rest)
    | _ => (false, text)
  let word := String.ofList (Text.lower rest)
  let size :=
    if word = "inf" ∨ word = "infinity" then some (1 / 0)
    else if word = "nan" then some (0 / 0)
    else (readDecimal? rest).map Decimal.toFloat
  size.map fun x => if negative then -x else x

end Gatehouse.Number
