import Gatehouse.Proofs.Masking

/-! Cipher block chaining. The inverse cipher undoes the cipher, block by block, so a text that was
padded, chained and tagged with a key is read again with that key. -/
namespace Gatehouse

/-! ## Columns and blocks -/

namespace Aes

/-- All 256 bytes are gone through. -/
theorem unsubstitute_substitute (b : UInt8) : unsubstitute (substitute b) = b := by
  have hAll : ∀ n : Fin 256, unsubstitute (substitute (UInt8.ofFin n)) = UInt8.ofFin n := by
    decide +kernel
  exact hAll b.toFin

/-- Doubling is a shift, and a mask if the highest bit was set. -/
theorem double_eq (b : UInt8) : double b = (b <<< 1) ^^^ if b.toBitVec.msb then 0x1b else 0 := by
  have hAll : ∀ n : Fin 256, double (UInt8.ofFin n) =
      (UInt8.ofFin n <<< 1) ^^^ if (UInt8.ofFin n).toBitVec.msb then 0x1b else 0 := by
    decide +kernel
  exact hAll b.toFin

/-- Doubling is linear. -/
theorem double_xor (a b : UInt8) : double (a ^^^ b) = double a ^^^ double b := by
  have hLeft (x y z : UInt8) : x ^^^ (y ^^^ z) = y ^^^ (x ^^^ z) := by
    rw [← UInt8.xor_assoc, UInt8.xor_comm x, UInt8.xor_assoc]
  simp only [double_eq, UInt8.toBitVec_xor, BitVec.msb_xor, UInt8.shiftLeft_xor]
  cases a.toBitVec.msb <;> cases b.toBitVec.msb <;>
    simp [UInt8.xor_assoc, UInt8.xor_comm, hLeft]

namespace Column

/-- Mixing is linear. -/
theorem mix_add (c d : Column) : (c.add d).mix = c.mix.add d.mix := by
  simp only [mix, add, double_xor]
  congr 1 <;> ac_rfl

theorem unmix_add (c d : Column) : (c.add d).unmix = c.unmix.add d.unmix := by
  simp only [unmix, add, double_xor]
  congr 1 <;> ac_rfl

/-- A column with one byte in it. -/
def single (b : UInt8) : Column := ⟨b, 0, 0, 0⟩

/-- By linearity it is enough to undo the mixing of one byte in the first row. -/
theorem unmix_mix_single (b : UInt8) : (single b).mix.unmix = single b := by
  have hAll : ∀ n : Fin 256, (single (UInt8.ofFin n)).mix.unmix = single (UInt8.ofFin n) := by
    decide +kernel
  exact hAll b.toFin

/-- Mixing is linear and turns with the column, so it is enough to look at single bytes. -/
theorem unmix_mix (c : Column) : c.mix.unmix = c := by
  have hTurn {d : Column} (h : d.mix.unmix = d) : d.rotate.mix.unmix = d.rotate :=
    congrArg rotate h
  have hFourth (b : UInt8) := hTurn (unmix_mix_single b)
  have hThird (b : UInt8) := hTurn (hFourth b)
  have hSecond (b : UInt8) := hTurn (hThird b)
  have hSum : c = (((single c.p).add (single c.s).rotate).add (single c.r).rotate.rotate).add
      (single c.q).rotate.rotate.rotate := by
    simp [single, add, rotate]
  rw [hSum]
  simp only [mix_add, unmix_add, unmix_mix_single, hSecond, hThird, hFourth]

theorem add_add_cancel (c d : Column) : (c.add d).add d = c := by
  simp only [add, UInt8.xor_assoc, UInt8.xor_self, UInt8.xor_zero]

end Column

namespace Block

theorem add_add_cancel (a b : Block) : (a.add b).add b = a := by
  simp [add, Column.add_add_cancel]

/-- Unmixing undoes mixing, column by column. -/
theorem unmix_mix (b : Block) : (b.map Column.mix).map Column.unmix = b := by
  simp [map, Column.unmix_mix]

/-- What a round does first: it substitutes bytes and shifts rows. -/
def scramble (b : Block) : Block :=
  (b.map (·.map substitute)).shiftRows

def unscramble (b : Block) : Block :=
  b.unshiftRows.map (·.map unsubstitute)

/-- What a round does before its key is added can be undone. -/
theorem unscramble_scramble (b : Block) : b.scramble.unscramble = b := by
  rw [unscramble, scramble, unshiftRows_shiftRows]
  simp [map, Column.map, unsubstitute_substitute]

theorem ofBytes_toBytes (b : Block) : ofBytes b.toBytes = b := rfl

theorem toBytes_ofBytes {bytes : Bytes} (h : bytes.length = 16) :
    (ofBytes bytes).toBytes = bytes := by
  match bytes, h with
  | [_, _, _, _, _, _, _, _, _, _, _, _, _, _, _, _], _ => rfl

end Block

/-! ## Rounds -/

theorem rounds_cons (key next : Block) (keys : List Block) (state : Block) :
    rounds (key :: next :: keys) state =
      rounds (next :: keys) ((state.scramble.map Column.mix).add key) := rfl

theorem inverseRounds_cons (key : Block) {keys : List Block} (h : keys ≠ []) (state : Block) :
    inverseRounds (key :: keys) state =
      inverseRounds keys ((state.unscramble.add key).map Column.unmix) := by
  cases keys with
  | nil => exact (h rfl).elim
  | cons next keys => rfl

/-- The rounds are undone from the last one on. What is left to the inverse cipher is to undo the
first half of the first round, and all that came before it. -/
theorem inverseRounds_rounds {keys : List Block} (h : keys ≠ []) (state : Block) :
    ∃ last others, keys.reverse = last :: others ∧ ∀ earlier, earlier ≠ [] →
      inverseRounds (others ++ earlier) ((rounds keys state).add last) =
        inverseRounds earlier state.scramble := by
  induction keys generalizing state with
  | nil => exact (h rfl).elim
  | cons key keys ih =>
      cases keys with
      | nil =>
          refine ⟨key, [], rfl, fun earlier _ => ?_⟩
          change inverseRounds earlier ((state.scramble.add key).add key) = _
          rw [Block.add_add_cancel]
      | cons next keys =>
          obtain ⟨last, others, hReverse, hUndone⟩ :=
            ih (List.cons_ne_nil _ _) ((state.scramble.map Column.mix).add key)
          refine ⟨last, others ++ [key], ?_, fun earlier hEarlier => ?_⟩
          · rw [List.reverse_cons, hReverse, List.cons_append]
          · rw [rounds_cons, List.append_assoc, List.singleton_append,
              hUndone _ (List.cons_ne_nil _ _), inverseRounds_cons key hEarlier,
              Block.unscramble_scramble, Block.add_add_cancel, Block.unmix_mix]

/-- The inverse cipher undoes the cipher. -/
theorem decrypt_encrypt (keys : List Block) (block : Block) :
    decrypt keys (encrypt keys block) = block := by
  cases keys with
  | nil => rfl
  | cons first keys =>
      cases keys with
      | nil => exact Block.add_add_cancel block first
      | cons next keys =>
          obtain ⟨last, others, hReverse, hUndone⟩ :=
            inverseRounds_rounds (List.cons_ne_nil next keys) (block.add first)
          rw [decrypt, encrypt, List.reverse_cons, hReverse, List.cons_append]
          dsimp only
          rw [hUndone _ (List.cons_ne_nil _ _)]
          change (block.add first).scramble.unscramble.add first = block
          rw [Block.unscramble_scramble, Block.add_add_cancel]

end Aes

/-! ## Chains -/

namespace CbcHmac

/-- Every block is added to the ciphertext before it, the first to `previous`, and encrypted. -/
def chain (keys : List Aes.Block) : Bytes → List Bytes → Bytes
  | _, [] => []
  | previous, block :: rest =>
    let sealed := (Aes.encrypt keys (Aes.Block.ofBytes (Bytes.xor block previous))).toBytes
    sealed ++ chain keys sealed rest

/-- The text with 1 to 16 bytes that tell their number, up to a full block. -/
def pad (text : Bytes) : Bytes :=
  let n := 16 - text.length % 16
  text ++ List.replicate n (UInt8.ofNat n)

/-- The ciphertext and the tag of a text. -/
def encrypt (key iv associated text : Bytes) : Bytes × Bytes :=
  let ciphertext := chain (Aes.roundKeys (cipherKey key)) (iv.take 16) ((pad text).blocks 16)
  (ciphertext, tag key iv associated ciphertext)

/-- A padded text consists of whole blocks. -/
theorem length_pad (text : Bytes) : (pad text).length % 16 = 0 := by
  simp only [pad, List.length_append, List.length_replicate]
  omega

/-- Padding can always be taken off again, for it tells its own length. -/
theorem unpad?_pad (text : Bytes) : unpad? (pad text) = some text := by
  have hPositive : 0 < 16 - text.length % 16 := by omega
  have hSmall : 16 - text.length % 16 ≤ 16 := by omega
  unfold pad unpad?
  dsimp only
  generalize 16 - text.length % 16 = n at hPositive hSmall
  have hByte : (UInt8.ofNat n).toNat = n := by
    rw [UInt8.toNat_ofNat']
    omega
  have hLast : (text ++ List.replicate n (UInt8.ofNat n)).getLast? = some (UInt8.ofNat n) := by
    rw [List.getLast?_append, List.getLast?_replicate, if_neg (by omega)]
    rfl
  simp [hLast, hByte]
  omega

/-- A chained text of full blocks is as long as it was, and is read again. -/
theorem unchain_chain (keys : List Aes.Block) {count : Nat} {previous text : Bytes}
    (hPrevious : previous.length = 16) (hText : text.length = 16 * count) :
    (chain keys previous (text.blocks 16)).length = text.length ∧
      unchain keys previous ((chain keys previous (text.blocks 16)).blocks 16) = text := by
  induction count generalizing previous text with
  | zero =>
      obtain rfl : text = [] := List.length_eq_zero_iff.mp hText
      exact ⟨rfl, rfl⟩
  | succ count ih =>
      have hSome : text ≠ [] := List.ne_nil_of_length_pos (by omega)
      have hHead : (text.take 16).length = 16 := by
        rw [List.length_take]
        omega
      have hXor : (Bytes.xor (text.take 16) previous).length = 16 := by
        rw [Bytes.length_xor, hHead, hPrevious]
        rfl
      rw [Bytes.blocks_eq_cons (by decide) hSome, chain]
      generalize hSealed : Aes.encrypt keys
        (Aes.Block.ofBytes (Bytes.xor (text.take 16) previous)) = sealed
      have hLength : sealed.toBytes.length = 16 := rfl
      obtain ⟨hRestLength, hRest⟩ :=
        @ih sealed.toBytes (text.drop 16) hLength (by rw [List.length_drop]; omega)
      have hOpened : Bytes.xor (Aes.decrypt keys sealed).toBytes previous = text.take 16 := by
        rw [← hSealed, Aes.decrypt_encrypt, Aes.Block.toBytes_ofBytes hXor,
          Bytes.xor_xor_cancel (by omega)]
      generalize chain keys sealed.toBytes (Bytes.blocks 16 (text.drop 16)) = rest
        at hRestLength hRest
      constructor
      · rw [List.length_append, hLength, hRestLength, List.length_drop]
        omega
      · have hChained : sealed.toBytes ++ rest ≠ [] :=
          List.append_ne_nil_of_left_ne_nil (List.ne_nil_of_length_pos (by omega)) rest
        rw [Bytes.blocks_eq_cons (by decide) hChained, List.take_left' hLength,
          List.drop_left' hLength, unchain, Aes.Block.ofBytes_toBytes, hOpened, hRest,
          List.take_append_drop]

/-- What was encrypted with a key is decrypted with it. -/
theorem decrypt?_encrypt (key : Bytes) {iv : Bytes} (hIv : 16 ≤ iv.length)
    (associated text : Bytes) :
    decrypt? key iv associated (encrypt key iv associated text).1
      (encrypt key iv associated text).2 = some text := by
  have hPadded : (pad text).length = 16 * ((pad text).length / 16) := by
    have hFull := length_pad text
    omega
  have hStart : (iv.take 16).length = 16 := by
    rw [List.length_take]
    omega
  obtain ⟨hLength, hText⟩ := unchain_chain (Aes.roundKeys (cipherKey key)) hStart hPadded
  unfold encrypt decrypt?
  dsimp only
  rw [if_pos ⟨by rw [hLength, length_pad], rfl⟩, hText, unpad?_pad]

end CbcHmac

end Gatehouse
