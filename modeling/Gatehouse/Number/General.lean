import Gatehouse.Number.Binary64

/-! The general number format with fourteen significant digits: positional from 10^-4 up to
10^14, with an exponent of at least two digits outside; zeros at the end of the fraction are
dropped. The digits are those of the exact value, a half going to the even digit. -/
namespace Gatehouse.Number

/-- The number of significant digits. -/
def precision : Nat := 14

def decimalDigits (n : Nat) : List Char :=
  Nat.toDigits 10 n

/-- The power of ten of the first digit of a positive quotient. -/
def leadingPower (numerator denominator : Nat) : Int :=
  let guess : Int := (decimalDigits numerator).length - (decimalDigits denominator).length
  let fits :=
    if 0 ≤ guess then decide (denominator * Nat.pow 10 guess.toNat ≤ numerator)
    else decide (denominator ≤ numerator * Nat.pow 10 (-guess).toNat)
  if fits then guess else guess - 1

/-- The significant digits of a positive quotient as one number, and the power of ten of the
first of them. Rounding may carry into a new first digit. -/
def significant (numerator denominator : Nat) : Nat × Int :=
  let power := leadingPower numerator denominator
  let shift : Int := precision - 1 - power
  let digits :=
    if 0 ≤ shift then roundEven (numerator * Nat.pow 10 shift.toNat) denominator
    else roundEven numerator (denominator * Nat.pow 10 (-shift).toNat)
  if digits = Nat.pow 10 precision then (digits / 10, power + 1) else (digits, power)

def dropTrailingZeros (digits : List Char) : List Char :=
  (digits.reverse.dropWhile (· == '0')).reverse

/-- A whole part and the digits after the point, without the point if there are none. -/
def pointed (whole fraction : List Char) : List Char :=
  match dropTrailingZeros fraction with
  | [] => whole
  | digits => whole ++ '.' :: digits

def exponentText (power : Int) : List Char :=
  let digits := decimalDigits power.natAbs
  (if power < 0 then '-' else '+') :: (if digits.length < 2 then '0' :: digits else digits)

/-- The text of a positive quotient. -/
def generalOfRatio (numerator denominator : Nat) : List Char :=
  let (value, power) := significant numerator denominator
  let digits := decimalDigits value
  if power < -4 ∨ (precision : Int) ≤ power then
    pointed (digits.take 1) (digits.drop 1) ++ 'e' :: exponentText power
  else if 0 ≤ power then
    pointed (digits.take (power.toNat + 1)) (digits.drop (power.toNat + 1))
  else pointed ['0'] (List.replicate ((-power).toNat - 1) '0' ++ digits)

/-- The text of a double. -/
def general (x : Float) : String :=
  let signed := fun (negative : Bool) text => String.ofList (if negative then '-' :: text else text)
  match exact x with
  | .undefined => signed (x.toBits.toNat.testBit 63) "nan".toList
  | .infinite negative => signed negative "inf".toList
  | .finite negative mantissa exponent =>
    if mantissa = 0 then signed negative ['0']
    else
      let (numerator, denominator) := ratioOf mantissa exponent
      signed negative (generalOfRatio numerator denominator)

end Gatehouse.Number
