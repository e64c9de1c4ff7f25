import Gatehouse.Number.Binary64

/-! The numbers that the limiter counts in: doubles where it runs, exact rationals where it is
reasoned about. -/
namespace Gatehouse.RateLimit

class Arithmetic (F : Type) where
  ofNat : Nat → F
  add : F → F → F
  sub : F → F → F
  mul : F → F → F
  div : F → F → F
  less : F → F → Bool
  /-- The largest integer below. -/
  floor : F → Int
  /-- The smallest integer above. -/
  ceil : F → Int

instance : Arithmetic Float where
  ofNat n := Number.nearest n 1
  add a b := a + b
  sub a b := a - b
  mul a b := a * b
  div a b := a / b
  less a b := a < b
  floor a := Number.toInt64 a.floor
  ceil a := Number.toInt64 a.ceil

instance : Arithmetic Rat where
  ofNat n := n
  add a b := a + b
  sub a b := a - b
  mul a b := a * b
  div a b := a / b
  less a b := a < b
  floor a := a.floor
  ceil a := a.ceil

end Gatehouse.RateLimit
