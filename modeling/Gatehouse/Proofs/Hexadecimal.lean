import Gatehouse.Bytes.Hex
import Gatehouse.Proofs.Bearing
import Gatehouse.Proofs.LetterCase

/-! Hexadecimal texts. A text is read as the bytes that are written like it, up to the case of its
letters, and there are such bytes if it has an even number of characters and all of them are digits. -/
namespace Gatehouse.Bytes

/-! ## Digits -/

/-- A hexadecimal digit in either case. -/
def IsHexDigit (c : Char) : Prop :=
  Text.isDigit c ∨ ('a' ≤ c ∧ c ≤ 'f') ∨ ('A' ≤ c ∧ c ≤ 'F')

instance (c : Char) : Decidable (IsHexDigit c) :=
  inferInstanceAs (Decidable (_ ∨ _))

theorem IsHexDigit.lt {c : Char} (h : IsHexDigit c) : c.toNat < 128 := by
  rcases h with h | ⟨-, h⟩ | ⟨-, h⟩
  · exact Text.lt_of_isDigit h
  · exact Nat.lt_of_le_of_lt h (by decide)
  · exact Nat.lt_of_le_of_lt h (by decide)

/-- The digits are the characters that have a value. -/
theorem isHexDigit_iff {c : Char} : IsHexDigit c ↔ ∃ n, hexValue? c = some n := by
  unfold hexValue?
  simp only [IsHexDigit, Text.isDigit, Bool.and_eq_true, decide_eq_true_eq]
  split_ifs <;> simp_all

/-- The value of a digit is the number that is written like it. -/
theorem hexValue?_eq_some_iff {c : Char} {n : Nat} :
    hexValue? c = some n ↔ n < 16 ∧ Text.lowerChar c = hexDigit n := by
  by_cases hBound : c.toNat < 128
  · have hTable : (∀ value ∈ hexValue? c, value < 16) ∧
        ∀ n < 16, (hexValue? c = some n ↔ Text.lowerChar c = hexDigit n) :=
      Text.ascii_forall (P := fun c => (∀ value ∈ hexValue? c, value < 16) ∧
        ∀ n < 16, (hexValue? c = some n ↔ Text.lowerChar c = hexDigit n)) (by decide +kernel) hBound
    exact ⟨fun h => ⟨hTable.1 n h, (hTable.2 n (hTable.1 n h)).mp h⟩, fun h => (hTable.2 n h.1).mpr h.2⟩
  · -- No digit is outside ASCII, and neither is what a digit is in lower case.
    refine iff_of_false (fun h => hBound (isHexDigit_iff.mpr ⟨n, h⟩).lt) ?_
    rintro ⟨hSmall, hDigit⟩
    have hLow : ∀ n < 16, (hexDigit n).toNat < 128 := by
      decide
    have hKept : 128 ≤ (Text.lowerChar c).toNat :=
      Text.lowerChar_rec (P := fun c d => 128 ≤ c.toNat → 128 ≤ d.toNat) (fun _ h => h) (by decide) c
        (Nat.le_of_not_lt hBound)
    rw [hDigit] at hKept
    exact absurd (hLow n hSmall) (Nat.not_lt_of_le hKept)

/-! ## Texts -/

/-- Two digits are written for each byte. -/
theorem length_toHex (bytes : Bytes) : (toHex bytes).length = 2 * bytes.length := by
  induction bytes with
  | nil => rfl
  | cons byte rest ih =>
      rw [toHex] at ih ⊢
      rw [List.flatMap_cons, List.length_append, ih]
      simp only [List.length_cons, List.length_nil]
      omega

theorem toHex_cons (byte : UInt8) (rest : Bytes) :
    toHex (byte :: rest) =
      hexDigit (byte.toNat / 16) :: hexDigit (byte.toNat % 16) :: toHex rest :=
  rfl

/-- Reading takes each text to the bytes that are written like it. -/
theorem ofHex?_eq_some_iff {text : List Char} {bytes : Bytes} :
    ofHex? text = some bytes ↔ Text.lower text = toHex bytes := by
  fun_induction ofHex? text generalizing bytes with
  | case1 => cases bytes <;> simp [Text.lower, toHex]
  | case2 c =>
      refine iff_of_false (by simp) fun h => ?_
      have hLength := congrArg List.length h
      rw [length_toHex, Text.length_lower] at hLength
      simp only [List.length_cons, List.length_nil] at hLength
      omega
  | case3 high low rest ih =>
      simp only [Option.bind_eq_bind, Option.bind_eq_some_iff, Option.some.injEq,
        hexValue?_eq_some_iff, ih]
      constructor
      · rintro ⟨h, ⟨hHigh, hUpper⟩, l, ⟨hLow, hLower⟩, tail, hTail, rfl⟩
        have hByte : (UInt8.ofNat (16 * h + l)).toNat = 16 * h + l := by
          rw [UInt8.toNat_ofNat']
          omega
        rw [toHex_cons, hByte, show (16 * h + l) / 16 = h by omega,
          show (16 * h + l) % 16 = l by omega, ← hUpper, ← hLower, ← hTail]
        rfl
      · intro hText
        cases bytes with
        | nil => cases hText
        | cons byte tail =>
            rw [toHex_cons] at hText
            obtain ⟨hUpper, hRest⟩ := List.cons.inj hText
            obtain ⟨hLower, hTail⟩ := List.cons.inj hRest
            have hBound := byte.toNat_lt
            refine ⟨_, ⟨by omega, hUpper⟩, _, ⟨by omega, hLower⟩, tail, hTail, ?_⟩
            rw [show 16 * (byte.toNat / 16) + byte.toNat % 16 = byte.toNat by omega,
              UInt8.ofNat_toNat]

/-- A text of digits is read if they come in pairs. -/
theorem exists_ofHex?_iff {text : List Char} :
    (∃ bytes, ofHex? text = some bytes) ↔ text.length % 2 = 0 ∧ ∀ c ∈ text, IsHexDigit c := by
  fun_induction ofHex? text with
  | case1 => simp
  | case2 c => simp
  | case3 high low rest ih =>
      simp only [Option.bind_eq_bind, Option.bind_eq_some_iff, Option.some.injEq,
        List.length_cons, List.forall_mem_cons, isHexDigit_iff]
      constructor
      · rintro ⟨-, h, hHigh, l, hLow, tail, hTail, -⟩
        obtain ⟨hEven, hRest⟩ := ih.mp ⟨tail, hTail⟩
        exact ⟨by omega, ⟨h, hHigh⟩, ⟨l, hLow⟩, fun c hc => isHexDigit_iff.mp (hRest c hc)⟩
      · rintro ⟨hEven, ⟨h, hHigh⟩, ⟨l, hLow⟩, hRest⟩
        obtain ⟨tail, hTail⟩ := ih.mpr ⟨by omega, fun c hc => isHexDigit_iff.mpr (hRest c hc)⟩
        exact ⟨_, h, hHigh, l, hLow, tail, hTail, rfl⟩

/-- As many bytes are read as there are pairs of digits. -/
theorem exists_ofHex?_length_iff {text : List Char} (size : Nat) :
    (∃ bytes, ofHex? text = some bytes ∧ bytes.length = size) ↔
      text.length = 2 * size ∧ ∀ c ∈ text, IsHexDigit c := by
  constructor
  · rintro ⟨bytes, hRead, rfl⟩
    exact ⟨length_of_ofHex? hRead, (exists_ofHex?_iff.mp ⟨bytes, hRead⟩).2⟩
  · rintro ⟨hLength, hDigits⟩
    obtain ⟨bytes, hRead⟩ := exists_ofHex?_iff.mpr ⟨by omega, hDigits⟩
    have hBytes := length_of_ofHex? hRead
    exact ⟨bytes, hRead, by omega⟩

/-- The case of the digits does not matter. -/
theorem ofHex?_congr {text other : List Char} (h : Text.lower text = Text.lower other) :
    ofHex? text = ofHex? other := by
  refine Option.ext fun bytes => ?_
  rw [ofHex?_eq_some_iff, ofHex?_eq_some_iff, h]

end Gatehouse.Bytes
