/-! Byte strings, and the UTF-8 form of texts. -/
namespace Gatehouse

abbrev Bytes := List UInt8

namespace Bytes

/-- The UTF-8 form of a text. -/
def ofText (text : String) : Bytes :=
  text.toUTF8.data.toList

/-- The text of which the bytes are the UTF-8 form, if there is one. -/
def toText? (bytes : Bytes) : Option String :=
  String.fromUTF8? ⟨bytes.toArray⟩

@[simp] theorem toText?_ofText (text : String) : toText? (ofText text) = some text := by
  have h : (ByteArray.mk (ofText text).toArray) = text.toUTF8 := by simp [ofText]
  have valid : text.toUTF8.IsValidUTF8 := text.isValidUTF8
  rw [toText?, h, String.fromUTF8?, dif_pos valid]
  rfl

theorem ofText_of_toText? {bytes : Bytes} {text : String} (h : toText? bytes = some text) :
    ofText text = bytes := by
  unfold toText? String.fromUTF8? at h
  split at h
  · simp only [Option.some.injEq] at h
    subst h
    simp [ofText, String.toUTF8, String.fromUTF8]
  · simp at h

/-- Big-endian bytes of a number, exactly `count` of them: higher digits are dropped. -/
def ofNat (count : Nat) (n : Nat) : Bytes :=
  (List.range count).map fun i => UInt8.ofNat (n >>> (8 * (count - 1 - i)))

/-- The number that the bytes spell in base 256, most significant byte first. -/
def toNat (bytes : Bytes) : Nat :=
  bytes.foldl (fun n b => 256 * n + b.toNat) 0

/-- Bytewise exclusive or, as long as the shorter operand. -/
def xor (a b : Bytes) : Bytes :=
  a.zipWith (· ^^^ ·) b

/-- The bytes in groups of `size`, in order; the last group may be shorter. -/
def blocks (size : Nat) (bytes : Bytes) : List Bytes :=
  go bytes bytes.length
where
  /-- `left` bounds the number of groups. -/
  go (bytes : Bytes) : Nat → List Bytes
    | 0 => []
    | left + 1 =>
      if bytes.isEmpty then [] else bytes.take size :: go (bytes.drop size) left

theorem length_ofNat (count n : Nat) : (ofNat count n).length = count := by
  simp [ofNat]

end Bytes

end Gatehouse
