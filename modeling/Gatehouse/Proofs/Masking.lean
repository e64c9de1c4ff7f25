import Gatehouse.Cipher.CbcHmac
import Gatehouse.Cipher.Gcm

/-! Counter mode. Texts of any length are masked block by block, and masking twice with the same
vector gives the text back. Tags have sixteen bytes. -/
namespace Gatehouse

/-! ## Blocks -/

namespace Bytes

/-- The number of steps does not matter as long as it covers the bytes. -/
theorem blocks_go_stable {size : Nat} (hSize : 0 < size) {bytes : Bytes} {count : Nat}
    (h : bytes.length ≤ count) : blocks.go size bytes count = blocks size bytes := by
  rw [blocks]
  induction count using Nat.strongRecOn generalizing bytes with
  | ind count ih =>
      cases bytes with
      | nil => cases count <;> rfl
      | cons byte rest =>
          cases count with
          | zero => simp at h
          | succ count =>
              have hShorter : ((byte :: rest).drop size).length ≤ rest.length := by
                simp only [List.length_drop, List.length_cons]
                omega
              simp only [List.length_cons] at h
              simp only [blocks.go, List.length_cons, List.isEmpty_cons, Bool.false_eq_true,
                if_false]
              rw [ih count (by omega) (by omega), ih rest.length (by omega) hShorter]

/-- Blocks are taken off the front. -/
theorem blocks_eq_cons {size : Nat} (hSize : 0 < size) {bytes : Bytes} (h : bytes ≠ []) :
    blocks size bytes = bytes.take size :: blocks size (bytes.drop size) := by
  cases bytes with
  | nil => exact (h rfl).elim
  | cons byte rest =>
      have hShorter : ((byte :: rest).drop size).length ≤ rest.length := by
        simp only [List.length_drop, List.length_cons]
        omega
      rw [← blocks_go_stable hSize hShorter]
      rfl

/-- Masking twice with one key is not masking. -/
theorem xor_xor_cancel {text key : Bytes} (h : text.length ≤ key.length) :
    xor (xor text key) key = text := by
  induction text generalizing key with
  | nil => rfl
  | cons byte text ih =>
      cases key with
      | nil => simp at h
      | cons mask key =>
          have hRest := @ih key (by simpa using h)
          simp only [xor, List.zipWith_cons_cons] at hRest ⊢
          rw [hRest, UInt8.xor_assoc, UInt8.xor_self, UInt8.xor_zero]

theorem length_xor (text key : Bytes) : (xor text key).length = min text.length key.length :=
  List.length_zipWith

end Bytes

/-! ## Counter mode -/

namespace Gcm

theorem length_aes (key block : Bytes) : (aes key block).length = 16 := rfl

variable {cipher : BlockCipher} (hCipher : ∀ block, (cipher block).length = 16)

/-- The first block is masked with its counter, the rest with the counters after it. -/
theorem maskBlocks_blocks_of_ne_nil (counter : Element) {text : Bytes} (h : text ≠ []) :
    maskBlocks cipher counter (text.blocks 16) =
      Bytes.xor (text.take 16) (cipher (counterBytes counter)) ++
        maskBlocks cipher (nextCounter counter) (Bytes.blocks 16 (text.drop 16)) := by
  rw [Bytes.blocks_eq_cons (by decide) h, maskBlocks]

include hCipher in
/-- The first block of a masked text is the mask of the first block of the text, and after it
comes the mask of the rest. -/
theorem maskBlocks_cut (counter : Element) {text : Bytes} (h : text ≠ []) :
    let masked := maskBlocks cipher counter (text.blocks 16)
    masked.take 16 = Bytes.xor (text.take 16) (cipher (counterBytes counter)) ∧
      masked.drop 16 =
        maskBlocks cipher (nextCounter counter) (Bytes.blocks 16 (text.drop 16)) := by
  have hHead : (Bytes.xor (text.take 16) (cipher (counterBytes counter))).length =
      min 16 text.length := by
    rw [Bytes.length_xor, hCipher, List.length_take]
    omega
  dsimp only
  rw [maskBlocks_blocks_of_ne_nil counter h]
  by_cases hLong : 16 ≤ text.length
  · rw [Nat.min_eq_left hLong] at hHead
    exact ⟨List.take_left' hHead, List.drop_left' hHead⟩
  · -- A last block that is not full has nothing after it.
    have hRest : text.drop 16 = [] := List.drop_of_length_le (by omega)
    have hNone : maskBlocks cipher (nextCounter counter) (Bytes.blocks 16 []) = [] := rfl
    rw [hRest, hNone, List.append_nil]
    exact ⟨List.take_of_length_le (by omega), List.drop_of_length_le (by omega)⟩

include hCipher in
/-- A masked text has the blocks of the text, and the same masks. -/
theorem maskBlocks_maskBlocks (counter : Element) (text : Bytes) :
    maskBlocks cipher counter ((maskBlocks cipher counter (text.blocks 16)).blocks 16) = text := by
  induction hLength : text.length using Nat.strongRecOn generalizing counter text with
  | ind length ih =>
      by_cases h : text = []
      · subst h
        rfl
      · have hPositive : 0 < text.length := List.length_pos_iff.mpr h
        have hFits : (text.take 16).length ≤ (cipher (counterBytes counter)).length := by
          rw [hCipher, List.length_take]
          omega
        have hRest := ih (text.drop 16).length (by rw [List.length_drop]; omega)
          (nextCounter counter) (text.drop 16) rfl
        obtain ⟨hTake, hDrop⟩ := maskBlocks_cut hCipher counter h
        have hMasked : maskBlocks cipher counter (text.blocks 16) ≠ [] := by
          intro hEmpty
          rw [hEmpty, List.take_nil] at hTake
          have hZero := congrArg List.length hTake
          rw [Bytes.length_xor, hCipher, List.length_take, List.length_nil] at hZero
          omega
        rw [maskBlocks_blocks_of_ne_nil counter hMasked, hTake, hDrop, hRest,
          Bytes.xor_xor_cancel hFits, List.take_append_drop]

include hCipher in
/-- Masking twice gives the text back. -/
theorem mask_mask (iv text : Bytes) : mask cipher iv (mask cipher iv text) = text :=
  maskBlocks_maskBlocks hCipher _ text

include hCipher in
/-- A tag has the length of a block, whatever it is a tag of. -/
theorem length_tag (iv associated ciphertext : Bytes) :
    (tag cipher iv associated ciphertext).length = 16 := by
  simp [tag, Bytes.length_xor, counterBytes, Bytes.length_ofNat, hCipher]

include hCipher in
/-- What is accepted as a tag is any beginning of the full tag but the empty one. -/
theorem decrypt?_eq_some_iff {iv associated ciphertext given text : Bytes} :
    decrypt? cipher iv associated ciphertext given = some text ↔
      given ≠ [] ∧ given <+: tag cipher iv associated ciphertext ∧
        mask cipher iv ciphertext = text := by
  have hLength := length_tag hCipher iv associated ciphertext
  rw [decrypt?, List.prefix_iff_eq_take, ← List.length_pos_iff]
  constructor
  · intro h
    split at h
    · next hGiven => exact ⟨hGiven.1, hGiven.2.2.symm, Option.some.inj h⟩
    · cases h
  · rintro ⟨hPositive, hTake, rfl⟩
    have hShort : given.length ≤ 16 := by
      rw [hTake, List.length_take]
      omega
    exact if_pos ⟨hPositive, hShort, hTake.symm⟩

end Gcm

theorem CbcHmac.length_tag (key iv associated ciphertext : Bytes) :
    (tag key iv associated ciphertext).length = 16 := by
  simp [tag, Sha256.authenticate, Sha256.length_digest]

end Gatehouse
