import Gatehouse.Number.Rounding
import Gatehouse.Number.Binary64
import Gatehouse.Number.General

/-! Spans of time, exact to the nanosecond. -/
namespace Gatehouse

structure Duration where
  nanoseconds : Nat
  deriving DecidableEq, Repr

namespace Duration

def ofParts (seconds nanoseconds : Nat) : Duration :=
  ⟨seconds * 1000000000 + nanoseconds⟩

def ofSeconds (seconds : Nat) : Duration :=
  ⟨seconds * 1000000000⟩

def ofMillis (milliseconds : Nat) : Duration :=
  ⟨milliseconds * 1000000⟩

def zero : Duration := ⟨0⟩

/-- Whole seconds, the rest dropped. -/
def seconds (d : Duration) : Nat :=
  d.nanoseconds / 1000000000

/-- What is left after the whole seconds. -/
def subsecond (d : Duration) : Nat :=
  d.nanoseconds % 1000000000

/-- Whole milliseconds, the rest dropped. -/
def millis (d : Duration) : Nat :=
  d.nanoseconds / 1000000

/-- Whole seconds, but at least one: what a waiting client or an expiring entry is given. -/
def secondsAtLeastOne (d : Duration) : Nat :=
  max d.seconds 1

/-- Seconds as a double: the whole seconds and the fraction are rounded one by one. -/
def toFloat (d : Duration) : Float :=
  (UInt64.ofNat d.seconds).toFloat + (UInt64.ofNat d.subsecond).toFloat / 1000000000

/-- The span nearest to a number of seconds, a half nanosecond going to the even one. Below
zero, and for no number, it is zero; 2^64 seconds and more are out of range. -/
def ofFloat? (x : Float) : Option Duration :=
  match Number.exact x with
  | .undefined => some zero
  | .infinite negative => if negative then some zero else none
  | .finite negative mantissa exponent =>
    if negative then some zero
    else
      let (numerator, denominator) := Number.ratioOf mantissa exponent
      if 18446744073709551616 * denominator ≤ numerator then none
      else some ⟨Number.roundEven (numerator * 1000000000) denominator⟩

/-- A count of units with its fraction, in the given number of digits, zeros at the end dropped. -/
def inUnits (nanoseconds unit places : Nat) : List Char :=
  let fraction := Number.decimalDigits (nanoseconds % unit)
  Number.pointed (Number.decimalDigits (nanoseconds / unit))
    (List.replicate (places - fraction.length) '0' ++ fraction)

/-- The span in the largest unit of which it holds at least one, for diagnostics. -/
def describe (d : Duration) : String :=
  let n := d.nanoseconds
  String.ofList <|
    if 1000000000 ≤ n then inUnits n 1000000000 9 ++ ['s']
    else if 1000000 ≤ n then inUnits n 1000000 6 ++ ['m', 's']
    else if 1000 ≤ n then inUnits n 1000 3 ++ ['µ', 's']
    else Number.decimalDigits n ++ ['n', 's']

end Duration

end Gatehouse
