import Gatehouse.Json.Lexer
import Gatehouse.Json.Printer
import Gatehouse.Proofs.Encoding

/-! The parts of JSON literals: the pieces of a string and the digits of a number, each read with
whatever follows it left over. -/
namespace Gatehouse.Json

/-! ## Characters as bytes -/

/-- The UTF-8 form of characters. -/
def utf8 (text : List Char) : Bytes :=
  text.flatMap String.utf8EncodeChar

@[simp] theorem utf8_nil : utf8 [] = [] := rfl

@[simp] theorem utf8_append (first second : List Char) :
    utf8 (first ++ second) = utf8 first ++ utf8 second :=
  List.flatMap_append

/-! ## Strings -/

/-- A byte of a string stands for itself. -/
theorem bytesOfPieces?_byte (b : UInt8) (rest : List Piece) :
    bytesOfPieces? (.byte b :: rest) = (bytesOfPieces? rest).map (b :: ·) := by
  rw [bytesOfPieces?]

/-- A unit that is no surrogate stands for a character of its own, whatever follows it. -/
theorem bytesOfPieces?_unit {n : Nat} (hHigh : isHighSurrogate n = false)
    (hLow : isLowSurrogate n = false) (rest : List Piece) :
    bytesOfPieces? (.unit n :: rest) =
      (bytesOfPieces? rest).map (String.utf8EncodeChar (Char.ofNat n) ++ ·) := by
  cases rest with
  | nil => simp [bytesOfPieces?, hHigh, hLow]
  | cons piece rest =>
      cases piece with
      | byte b => simp [bytesOfPieces?, hHigh, hLow]
      | unit m => rw [bytesOfPieces?, hHigh, hLow]; rfl

/-- A byte that is no mark is read as it is. -/
theorem readString?_plain {b : UInt8} (hPlain : 0x20 ≤ b) (hQuote : b ≠ 0x22)
    (hEscape : b ≠ 0x5C) (read : List Piece) (rest : Bytes) :
    readString? read (b :: rest) = readString? (.byte b :: read) rest := by
  rw [readString?.eq_5]
  · rw [if_neg]
    rintro (hLess | hSame)
    · exact absurd hPlain (UInt8.not_le.mpr hLess)
    · exact hEscape hSame
  · exact hQuote
  · intro _ _ _ _ _ hSame _
    exact hEscape hSame
  · intro _ _ hSame _
    exact hEscape hSame

/-- A short escape is read as the byte it stands for. -/
theorem readString?_letter {letter byte : UInt8} (hLetter : letter ≠ 0x75)
    (h : escapedByte? letter = some byte) (read : List Piece) (rest : Bytes) :
    readString? read (0x5C :: letter :: rest) = readString? (.byte byte :: read) rest := by
  rw [readString?.eq_4, h]
  · rfl
  · intro _ _ _ _ _ hSame _
    exact hLetter hSame

/-- Four digits are read as a unit of 16 bits. -/
theorem readString?_unit {a b c d : UInt8} {w x y z : Nat} (ha : hexByteValue? a = some w)
    (hb : hexByteValue? b = some x) (hc : hexByteValue? c = some y) (hd : hexByteValue? d = some z)
    (read : List Piece) (rest : Bytes) :
    readString? read (0x5C :: 0x75 :: a :: b :: c :: d :: rest) =
      readString? (.unit (((w * 16 + x) * 16 + y) * 16 + z) :: read) rest := by
  rw [readString?.eq_3, ha, hb, hc, hd]
  rfl

/-- What is neither a control character nor a quote nor a backslash has none of their bytes. -/
theorem plain_of_mem_utf8 {c : Char} (hPlain : ¬ c < ' ') (hQuote : c ≠ '"') (hEscape : c ≠ '\\')
    {b : UInt8} (hb : b ∈ String.utf8EncodeChar c) : 0x20 ≤ b ∧ b ≠ 0x22 ∧ b ≠ 0x5C := by
  by_cases hAscii : c.toNat < 128
  · rw [Bytes.utf8EncodeChar_of_ascii hAscii, List.mem_singleton] at hb
    subst hb
    exact Text.ascii_forall (P := fun c => ¬ c < ' ' ∧ c ≠ '"' ∧ c ≠ '\\' →
      0x20 ≤ UInt8.ofNat c.toNat ∧ UInt8.ofNat c.toNat ≠ 0x22 ∧ UInt8.ofNat c.toNat ≠ 0x5C)
      (by decide) hAscii ⟨hPlain, hQuote, hEscape⟩
  · have hHigh := Bytes.le_of_mem_utf8EncodeChar (by omega) hb
    refine ⟨UInt8.le_iff_toNat_le.mpr (by simp; omega), ?_, ?_⟩
    · rintro rfl
      exact absurd hHigh (by decide)
    · rintro rfl
      exact absurd hHigh (by decide)

/-! ## Numbers -/

/-- The decimal digits of a number as bytes. -/
def digitBytes (n : Nat) : Bytes :=
  utf8 (Nat.toDigits 10 n)

/-- The byte of a decimal digit. -/
def digitByte (n : Nat) : UInt8 :=
  UInt8.ofNat (0x30 + n)

theorem digitBytes_eq (n : Nat) :
    digitBytes n = if n < 10 then [digitByte n]
      else digitBytes (n / 10) ++ [digitByte (n % 10)] := by
  have hDigit : ∀ n < 10, utf8 [Nat.digitChar n] = [digitByte n] := by decide
  rw [digitBytes, Nat.toDigits_eq_if (by decide)]
  split
  · next h => exact hDigit n h
  · rw [utf8_append, hDigit _ (Nat.mod_lt n (by decide))]
    rfl

/-- Induction over the digits of a number, from the first one on. -/
theorem digitBytes_induction {P : Nat → Prop} (hSmall : ∀ n < 10, P n)
    (hLarge : ∀ n, 10 ≤ n → P (n / 10) → P n) (n : Nat) : P n := by
  induction n using Nat.strongRecOn with
  | ind n ih =>
      by_cases h : n < 10
      · exact hSmall n h
      · exact hLarge n (by omega) (ih (n / 10) (by omega))

theorem isDigitByte_of_mem {n : Nat} : ∀ b ∈ digitBytes n, isDigitByte b = true := by
  have hDigit : ∀ n < 10, isDigitByte (digitByte n) = true := by decide
  induction n using digitBytes_induction with
  | hSmall n h => rw [digitBytes_eq, if_pos h]; simp [hDigit n h]
  | hLarge n h ih =>
      rw [digitBytes_eq, if_neg (by omega)]
      intro b hb
      rcases List.mem_append.mp hb with hb | hb
      · exact ih b hb
      · rw [List.mem_singleton.mp hb]
        exact hDigit _ (by omega)

theorem digitBytes_ne_nil (n : Nat) : digitBytes n ≠ [] := by
  rw [digitBytes_eq]
  split <;> simp

/-- The digits that are written for a number have its value. -/
theorem digitBytesValue_digitBytes (n : Nat) : digitBytesValue (digitBytes n) = n := by
  have hDigit : ∀ n < 10, (digitByte n).toNat - 0x30 = n := by decide
  induction n using digitBytes_induction with
  | hSmall n h =>
      rw [digitBytes_eq, if_pos h]
      simp [digitBytesValue, hDigit n h]
  | hLarge n h ih =>
      rw [digitBytes_eq, if_neg (by omega), digitBytesValue, List.foldl_append]
      rw [digitBytesValue] at ih
      rw [ih, List.foldl_cons, List.foldl_nil, hDigit _ (by omega)]
      omega

/-- Only zero is written with a zero in front. -/
theorem head?_digitBytes {n : Nat} (h : n ≠ 0) : (digitBytes n).head? ≠ some 0x30 := by
  have hDigit : ∀ n < 10, n ≠ 0 → digitByte n ≠ 0x30 := by decide
  induction n using digitBytes_induction with
  | hSmall n hSmall =>
      rw [digitBytes_eq, if_pos hSmall]
      simpa using hDigit n hSmall h
  | hLarge n hLarge ih =>
      obtain ⟨first, rest, hFirst⟩ := List.exists_cons_of_ne_nil (digitBytes_ne_nil (n / 10))
      rw [digitBytes_eq, if_neg (by omega), hFirst]
      rw [hFirst] at ih
      exact ih (by omega)

/-- No number is written with a zero in front. -/
theorem not_leadingZero (n : Nat) :
    ¬ (1 < (digitBytes n).length ∧ (digitBytes n).head? = some 0x30) := by
  rintro ⟨hLength, hHead⟩
  by_cases h : n = 0
  · subst h
    exact absurd hLength (by decide)
  · exact head?_digitBytes h hHead

/-- What may follow a number: nothing that could go on with it. -/
def EndsNumber : Bytes → Prop
  | [] => True
  | b :: _ => isDigitByte b = false ∧ b ≠ 0x2E ∧ b ≠ 0x65 ∧ b ≠ 0x45

/-- A run of decimal digits, one at least. -/
structure IsDigits (digits : Bytes) : Prop where
  ne_nil : digits ≠ []
  isDigit : ∀ b ∈ digits, isDigitByte b = true

theorem isDigits_digitBytes (n : Nat) : IsDigits (digitBytes n) :=
  ⟨digitBytes_ne_nil n, isDigitByte_of_mem⟩

theorem IsDigits.head {digits : Bytes} (h : IsDigits digits) :
    ∃ b more, digits = b :: more ∧ isDigitByte b = true := by
  obtain ⟨b, more, rfl⟩ := List.exists_cons_of_ne_nil h.ne_nil
  exact ⟨b, more, rfl, h.isDigit b (List.mem_cons_self ..)⟩

/-- A sign is not taken for a digit. -/
theorem IsDigits.ne_sign {digits : Bytes} (h : IsDigits digits) {sign : UInt8}
    (hSign : isDigitByte sign = false) (rest after : Bytes) : digits ++ rest ≠ sign :: after := by
  obtain ⟨b, more, rfl, hDigit⟩ := h.head
  intro hSame
  rw [(List.cons.inj hSame).1, hSign] at hDigit
  cases hDigit

/-- A run of digits ends where no digit follows. -/
theorem readDigits?_append {digits rest : Bytes} (hDigits : IsDigits digits)
    (h : ∀ b ∈ rest.head?, isDigitByte b = false) :
    readDigits? (digits ++ rest) = some (digits, rest) := by
  have hRest : rest.takeWhile isDigitByte = [] ∧ rest.dropWhile isDigitByte = rest := by
    cases rest with
    | nil => exact ⟨rfl, rfl⟩
    | cons b rest => simp [h b rfl]
  rw [readDigits?, List.takeWhile_append_of_pos hDigits.isDigit,
    List.dropWhile_append_of_pos hDigits.isDigit, hRest.1, hRest.2, List.append_nil]
  exact if_neg (by simpa using hDigits.ne_nil)

/-- No digit follows where a number ends. -/
theorem EndsNumber.head? {rest : Bytes} (h : EndsNumber rest) :
    ∀ b ∈ rest.head?, isDigitByte b = false := by
  cases rest with
  | nil => simp
  | cons b rest => simpa using h.1

/-- There is no fraction without a point. -/
theorem readFraction?_of_head {b : UInt8} (h : b ≠ 0x2E) (rest : Bytes) :
    readFraction? (b :: rest) = some (none, b :: rest) := by
  unfold readFraction?
  split
  · next hSame => exact (h (List.cons.inj hSame).1).elim
  · rfl

theorem readExponent?_end {rest : Bytes} (h : EndsNumber rest) :
    readExponent? rest = some (none, rest) := by
  cases rest with
  | nil => rfl
  | cons b rest =>
      rw [readExponent?, if_neg]
      rintro (hSame | hSame)
      · exact h.2.2.1 hSame
      · exact h.2.2.2 hSame

/-- An integer is written with its sign and its digits. -/
theorem utf8_integerLiteral (n : Int) :
    utf8 (integerLiteral n) =
      if n < 0 then 0x2D :: digitBytes n.natAbs else digitBytes n.natAbs := by
  rw [integerLiteral]
  split <;> rfl

end Gatehouse.Json
