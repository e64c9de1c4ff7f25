import Gatehouse.Number.Rounding
import Gatehouse.Text.Integer

/-! Double-precision numbers as exact values: a finite one is an integer below 2^53 times a
power of two, and every positive rational has one double nearest to it. -/
namespace Gatehouse.Number

/-- What a double stands for. -/
inductive Exact
  /-- `mantissa * 2^exponent`, negated if `negative`; both zeros have mantissa 0. -/
  | finite (negative : Bool) (mantissa : Nat) (exponent : Int)
  | infinite (negative : Bool)
  | undefined

/-- The bit that stands before the fraction of a normal double, 2^52. -/
def leadingBit : Nat := 4503599627370496

/-- Reads the sign, the exponent and the fraction of a double off its bits. -/
def exact (x : Float) : Exact :=
  let bits := x.toBits.toNat
  let negative := bits.testBit 63
  let biased : Nat := bits / leadingBit % 2048
  let fraction : Nat := bits % leadingBit
  if biased = 2047 then if fraction = 0 then .infinite negative else .undefined
  else if biased = 0 then .finite negative fraction (-1074)
  else .finite negative (leadingBit + fraction) ((biased : Int) - 1075)

/-- The numerator and denominator of `mantissa * 2^exponent`. -/
def ratioOf (mantissa : Nat) (exponent : Int) : Nat × Nat :=
  if 0 ≤ exponent then (mantissa * Nat.pow 2 exponent.toNat, 1)
  else (mantissa, Nat.pow 2 (-exponent).toNat)

/-- The double nearest to a quotient, a half to the even mantissa; from the halfway point
above the largest double on, infinity. -/
def nearest (numerator denominator : Nat) : Float :=
  if numerator = 0 then 0
  else
    let guess : Int := (numerator.log2 : Int) - denominator.log2 - 52
    let below := -- the quotient is less than 2^52 units of 2^guess
      if 0 ≤ guess then numerator < denominator * leadingBit * Nat.pow 2 guess.toNat
      else numerator * Nat.pow 2 (-guess).toNat < denominator * leadingBit
    let exponent := max (if below then guess - 1 else guess) (-1074)
    let mantissa :=
      if 0 ≤ exponent then roundEven numerator (denominator * Nat.pow 2 exponent.toNat)
      else roundEven (numerator * Nat.pow 2 (-exponent).toNat) denominator
    let bits :=
      if mantissa < leadingBit then mantissa
      else (exponent + 1074).toNat * leadingBit + mantissa
    if 2047 * leadingBit ≤ bits then 1 / 0 else Float.ofBits (UInt64.ofNat bits)

/-- The integer next to a double toward zero. What is no number gives 0, and what lies
outside the range of 64-bit integers gives the end of the range. -/
def toInt64 (x : Float) : Int :=
  match exact x with
  | .undefined => 0
  | .infinite negative => if negative then Text.minI64 else Text.maxI64
  | .finite negative mantissa exponent =>
    let (numerator, denominator) := ratioOf mantissa exponent
    let size : Int := numerator / denominator
    if negative then max (-size) Text.minI64 else min size Text.maxI64

end Gatehouse.Number
