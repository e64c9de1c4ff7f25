import Gatehouse.Proofs.Acceptance
import Gatehouse.Token.Service

/-! Keys in hexadecimal. A text is a key if it has 64 digits and nothing but blanks around them. With
another even number of digits it has the wrong size, and any other text is not hexadecimal. Blanks and
the case of letters are all that two texts of one key can differ in. -/
namespace Gatehouse.Token.Key

variable {text other : String} {key another : Key}

/-! ## Outcomes -/

/-- The text is that many hexadecimal digits of either case, with any blanks around them. -/
def HasDigits (text : String) (count : Nat) : Prop :=
  ∃ digits, Text.Strips Text.isBlank text.toList digits ∧ digits.length = count ∧
    ∀ c ∈ digits, Bytes.IsHexDigit c

/-- What is wrong with a text that is no key: it has the digits of another number of bytes, which is
told, or it is not hexadecimal. -/
inductive Unfit (text : String) : Error → Prop
  | size {size : Nat} (hDigits : HasDigits text (2 * size)) (hSize : size ≠ 32) :
      Unfit text (.keySize size)
  | encoding (h : ∀ size, ¬ HasDigits text (2 * size)) : Unfit text .keyEncoding

/-- A text has the digits of so many bytes just if it is read as so many. -/
theorem hasDigits_iff {size : Nat} : HasDigits text (2 * size) ↔
    ∃ bytes, Bytes.ofHex? (Text.trim text.toList) = some bytes ∧ bytes.length = size := by
  simp only [Bytes.exists_ofHex?_length_iff, HasDigits, Text.strips_isBlank_iff, exists_eq_left']

/-- Bytes are no key for one reason only, their number. -/
theorem ofBytes_eq_error_iff {bytes : Bytes} {error : Error} :
    ofBytes bytes = .error error ↔ bytes.length ≠ 32 ∧ error = .keySize bytes.length := by
  unfold ofBytes
  split
  · next hLength => exact iff_of_false (by simp) fun h => h.1 hLength
  · next hLength => simp [hLength, eq_comm]

/-- What was read is taken for a key if it has the size of one. -/
theorem ofHex_of_read {bytes : Bytes}
    (h : Bytes.ofHex? (Text.trim text.toList) = some bytes) : ofHex text = ofBytes bytes := by
  rw [ofHex, h]

/-- What cannot be read at all is refused for its encoding. -/
theorem ofHex_of_not_read (h : Bytes.ofHex? (Text.trim text.toList) = none) :
    ofHex text = .error .keyEncoding := by
  rw [ofHex, h]

/-- The texts of keys are those with 64 digits, whatever blanks are around them. -/
theorem exists_ofHex_eq_ok_iff : (∃ key, ofHex text = .ok key) ↔ HasDigits text 64 := by
  simp only [ofHex_eq_ok_iff, exists_spells_iff, HasDigits, Text.strips_isBlank_iff, exists_eq_left']
  exact and_congr_left fun hDigits => by rw [Bytes.utf8ByteSize_of_isHexDigit hDigits]

/-- Each text that is refused is refused for what makes it unfit, and its error says so. -/
theorem ofHex_eq_error_iff {error : Error} : ofHex text = .error error ↔ Unfit text error := by
  constructor
  · intro h
    cases hRead : Bytes.ofHex? (Text.trim text.toList) with
    | none =>
        cases (ofHex_of_not_read hRead).symm.trans h
        refine .encoding fun size hDigits => ?_
        obtain ⟨bytes, hBytes, -⟩ := hasDigits_iff.mp hDigits
        cases hRead.symm.trans hBytes
    | some bytes =>
        rw [ofHex_of_read hRead, ofBytes_eq_error_iff] at h
        obtain ⟨hSize, rfl⟩ := h
        exact .size (hasDigits_iff.mpr ⟨bytes, hRead, rfl⟩) hSize
  · intro h
    cases h with
    | size hDigits hSize =>
        obtain ⟨bytes, hRead, rfl⟩ := hasDigits_iff.mp hDigits
        rw [ofHex_of_read hRead, ofBytes_eq_error_iff]
        exact ⟨hSize, rfl⟩
    | encoding hNone =>
        refine ofHex_of_not_read (Option.eq_none_iff_forall_ne_some.mpr fun bytes hRead => ?_)
        exact hNone bytes.length (hasDigits_iff.mpr ⟨bytes, hRead, rfl⟩)

example : ofHex "\u3000ABcd\n" = .error (.keySize 2) := rfl

/-! ## Spellings -/

/-- The texts are the same up to the blanks around them and the case of letters. -/
def Respells (text other : String) : Prop :=
  ∃ core others, Text.Strips Text.isBlank text.toList core ∧
    Text.Strips Text.isBlank other.toList others ∧ Text.lower core = Text.lower others

/-- To respell is to change the case of letters and the blanks around. -/
theorem respells_iff : Respells text other ↔
    Text.lower (Text.trim text.toList) = Text.lower (Text.trim other.toList) := by
  simp only [Respells, Text.strips_isBlank_iff, exists_and_left, exists_eq_left']

/-- A text that is respelled has the same key, or is refused with the same error. -/
theorem Respells.ofHex_eq (h : Respells text other) : ofHex other = ofHex text := by
  rw [ofHex, ofHex, Bytes.ofHex?_congr (respells_iff.mp h)]

/-- Only one key is spelled by a text and its respellings. -/
theorem Respells.eq (h : Respells text other) (hKey : ofHex text = .ok key)
    (hAnother : ofHex other = .ok another) : another = key :=
  Except.ok.inj (hAnother.symm.trans (h.ofHex_eq.trans hKey))

/-- The texts of a key differ in nothing else. -/
theorem bytes_eq_iff_respells (hKey : ofHex text = .ok key) (hAnother : ofHex other = .ok another) :
    key.bytes = another.bytes ↔ Respells text other := by
  constructor
  · intro hBytes
    have hText : Spells text key := ofHex_eq_ok_iff.mp hKey
    have hOther : Spells other another := ofHex_eq_ok_iff.mp hAnother
    exact respells_iff.mpr (hText.trans (hBytes ▸ hOther.symm))
  · intro hRespells
    rw [hRespells.eq hKey hAnother]

/-- A text is a key just if it has 64 digits, and they are the bytes of the key. It is refused for its
size if it has another even number of digits, and for not being hexadecimal in all other cases. However
a text is respelt, it fares the same. Two texts are keys with the same bytes just if one respells the
other, and then every token is judged with both keys alike at every time. -/
theorem hex_key_exact (text : String) :
    ((∃ key, ofHex text = .ok key) ↔ HasDigits text 64) ∧
    (∀ key, ofHex text = .ok key ↔ Spells text key) ∧
    (∀ error, ofHex text = .error error ↔ Unfit text error) ∧
    ∀ other, (Respells text other → ofHex other = ofHex text) ∧
      ∀ key another, ofHex text = .ok key → ofHex other = .ok another →
        (key.bytes = another.bytes ↔ Respells text other) ∧
        (Respells text other →
          ∀ token now, verify key token now = verify another token now) := by
  refine ⟨exists_ofHex_eq_ok_iff, fun key => ofHex_eq_ok_iff, fun error => ofHex_eq_error_iff,
    fun other => ⟨Respells.ofHex_eq, fun key another hKey hAnother =>
      ⟨bytes_eq_iff_respells hKey hAnother, fun hRespells token now => ?_⟩⟩⟩
  rw [hRespells.eq hKey hAnother]

/-- A key in capitals is respelt in small letters, with blanks around it. -/
theorem padded_key_respelt :
    let text := "ABCDEF0123456789ABCDEF0123456789ABCDEF0123456789ABCDEF0123456789"
    let other := "\u3000 abcdef0123456789abcdef0123456789abcdef0123456789abcdef0123456789\n"
    ∃ key another, ofHex text = .ok key ∧ ofHex other = .ok another ∧ Respells text other ∧
      ∀ token now, verify key token now = verify another token now := by
  intro text other
  obtain ⟨-, hText, -, hOthers⟩ := hex_key_exact text
  obtain ⟨-, hOther, -, -⟩ := hex_key_exact other
  let key : Key := ⟨(List.replicate 4 [0xAB, 0xCD, 0xEF, 0x01, 0x23, 0x45, 0x67, 0x89]).flatten, rfl⟩
  have hKey : ofHex text = .ok key := (hText key).mpr (by decide)
  have hAnother : ofHex other = .ok key := (hOther key).mpr (by decide)
  obtain ⟨hBytes, hVerify⟩ := (hOthers other).2 key key hKey hAnother
  have hRespells : Respells text other := hBytes.mp rfl
  exact ⟨key, key, hKey, hAnother, hRespells, hVerify hRespells⟩

end Gatehouse.Token.Key
