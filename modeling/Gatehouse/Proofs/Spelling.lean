import Gatehouse.Bytes.Base64Url

/-! Base-64 spelling. What is spelled out is read back, and a spelling has no dots in it. -/
namespace Gatehouse.Bytes

/-- All 64 digits are gone through. -/
theorem base64Value?_base64Char {n : Nat} (h : n < 64) : base64Value? (base64Char n) = some n := by
  have hAll : ∀ n < 64, base64Value? (base64Char n) = some n := by decide
  exact hAll n h

theorem base64Char_ne_dot (n : Nat) : base64Char n ≠ '.' := by
  by_cases h : n < 64
  · intro hDot
    have hValue := base64Value?_base64Char h
    rw [hDot] at hValue
    cases hValue
  · rw [base64Char, if_neg (by omega), if_neg (by omega), if_neg (by omega), if_neg (by omega)]
    decide

/-- So encoded bytes can stand between dots. -/
theorem dot_not_mem_toBase64Url (bytes : Bytes) : '.' ∉ toBase64Url bytes := by
  fun_induction toBase64Url bytes with
  | case1 => simp
  | case2 a => simp [(base64Char_ne_dot _).symm]
  | case3 a b => simp [(base64Char_ne_dot _).symm]
  | case4 a b c rest ih => simp [(base64Char_ne_dot _).symm, ih]

/-- What is spelled out is read back. -/
theorem ofBase64Url?_toBase64Url (bytes : Bytes) :
    ofBase64Url? (toBase64Url bytes) = some bytes := by
  fun_induction toBase64Url bytes with
  | case1 => rfl
  | case2 a =>
      have hBound := a.toNat_lt
      have hUnused : a.toNat % 4 * 16 % 16 = 0 := by omega
      have hFirst : a.toNat / 4 * 4 + a.toNat % 4 * 16 / 16 = a.toNat := by omega
      rw [ofBase64Url?, base64Value?_base64Char (by omega), base64Value?_base64Char (by omega)]
      simp only [Option.bind_eq_bind, Option.bind_some, hUnused, hFirst, if_true,
        UInt8.ofNat_toNat]
  | case3 a b =>
      have hBoundA := a.toNat_lt
      have hBoundB := b.toNat_lt
      have hUnused : b.toNat % 16 * 4 % 4 = 0 := by omega
      have hFirst : a.toNat / 4 * 4 + (a.toNat % 4 * 16 + b.toNat / 16) / 16 = a.toNat := by omega
      have hSecond : (a.toNat % 4 * 16 + b.toNat / 16) % 16 * 16 + b.toNat % 16 * 4 / 4 =
          b.toNat := by omega
      rw [ofBase64Url?, base64Value?_base64Char (by omega), base64Value?_base64Char (by omega),
        base64Value?_base64Char (by omega)]
      simp only [Option.bind_eq_bind, Option.bind_some, hUnused, hFirst, hSecond, if_true,
        UInt8.ofNat_toNat]
  | case4 a b c rest ih =>
      have hBoundA := a.toNat_lt
      have hBoundB := b.toNat_lt
      have hBoundC := c.toNat_lt
      have hFirst : a.toNat / 4 * 4 + (a.toNat % 4 * 16 + b.toNat / 16) / 16 = a.toNat := by omega
      have hSecond : (a.toNat % 4 * 16 + b.toNat / 16) % 16 * 16 +
          (b.toNat % 16 * 4 + c.toNat / 64) / 4 = b.toNat := by omega
      have hThird : (b.toNat % 16 * 4 + c.toNat / 64) % 4 * 64 + c.toNat % 64 = c.toNat := by omega
      rw [ofBase64Url?, base64Value?_base64Char (by omega), base64Value?_base64Char (by omega),
        base64Value?_base64Char (by omega), base64Value?_base64Char (by omega), ih]
      simp only [Option.bind_eq_bind, Option.bind_some, hFirst, hSecond, hThird,
        UInt8.ofNat_toNat]

end Gatehouse.Bytes
