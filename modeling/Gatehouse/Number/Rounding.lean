/-! Quotients of natural numbers rounded to the nearest integer, a half to the even one. -/
namespace Gatehouse.Number

/-- The integer nearest to `numerator / denominator`; of two, the even one. -/
def roundEven (numerator denominator : Nat) : Nat :=
  let low := numerator / denominator
  let twice := 2 * (numerator % denominator)
  if twice < denominator then low
  else if denominator < twice then low + 1
  else if low % 2 = 0 then low
  else low + 1

/-- The rounded quotient is off by half a unit at most. -/
theorem roundEven_near (numerator : Nat) {denominator : Nat} (h : 0 < denominator) :
    2 * numerator ≤ denominator * (2 * roundEven numerator denominator + 1) ∧
      denominator * (2 * roundEven numerator denominator) ≤ 2 * numerator + denominator := by
  have split := Nat.div_add_mod numerator denominator
  have less := Nat.mod_lt numerator h
  have low : denominator * (2 * (numerator / denominator)) =
      2 * (denominator * (numerator / denominator)) := by ac_rfl
  have high : denominator * (2 * (numerator / denominator + 1)) =
      2 * (denominator * (numerator / denominator)) + 2 * denominator := by
    rw [Nat.mul_add, Nat.mul_add, low]; omega
  simp only [roundEven]
  split
  · rw [Nat.mul_add, low]; omega
  · split
    · rw [Nat.mul_add, high]; omega
    · split
      · rw [Nat.mul_add, low]; omega
      · rw [Nat.mul_add, high]; omega

end Gatehouse.Number
