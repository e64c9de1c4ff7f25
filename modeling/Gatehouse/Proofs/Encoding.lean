import Gatehouse.Bytes.Basic
import Gatehouse.Text.Ascii

/-! Texts as bytes. The form of a text is made of the forms of its characters: an ASCII character
is one byte below 0x80, and of any other character all bytes are above that. -/
namespace Gatehouse

namespace Bytes

theorem ofText_ofList (text : List Char) :
    ofText (String.ofList text) = text.flatMap String.utf8EncodeChar := by
  simp [ofText, List.utf8Encode]

/-- A character of seven bits is one byte. -/
theorem utf8EncodeChar_of_ascii {c : Char} (h : c.toNat < 128) :
    String.utf8EncodeChar c = [UInt8.ofNat c.toNat] := by
  have hValue : c.val.toNat ≤ 0x7f := Nat.le_of_lt_succ h
  simp only [String.utf8EncodeChar, hValue, if_true]
  rfl

/-- No byte of a character outside ASCII can be taken for an ASCII character. -/
theorem le_of_mem_utf8EncodeChar {c : Char} (h : 128 ≤ c.toNat) {byte : UInt8}
    (hByte : byte ∈ String.utf8EncodeChar c) : 128 ≤ byte.toNat := by
  have hValue : ¬ c.val.toNat ≤ 0x7f := Nat.not_le_of_lt h
  simp only [String.utf8EncodeChar, hValue, if_false] at hByte
  split at hByte
  · simp only [List.mem_cons, List.not_mem_nil, or_false] at hByte
    rcases hByte with rfl | rfl <;> rw [UInt8.toNat_ofNat'] <;> omega
  · split at hByte
    · simp only [List.mem_cons, List.not_mem_nil, or_false] at hByte
      rcases hByte with rfl | rfl | rfl <;> rw [UInt8.toNat_ofNat'] <;> omega
    · simp only [List.mem_cons, List.not_mem_nil, or_false] at hByte
      rcases hByte with rfl | rfl | rfl | rfl <;> rw [UInt8.toNat_ofNat'] <;> omega

theorem ofText_ofList_of_ascii {text : List Char} (h : ∀ c ∈ text, c.toNat < 128) :
    ofText (String.ofList text) = text.map fun c => UInt8.ofNat c.toNat := by
  rw [ofText_ofList]
  induction text with
  | nil => rfl
  | cons c rest ih =>
      rw [List.flatMap_cons, utf8EncodeChar_of_ascii (h c (List.mem_cons_self ..)),
        ih fun d hd => h d (List.mem_cons_of_mem _ hd)]
      rfl

end Bytes

namespace Text

/-- A character that may stand in a header: space to tilde, or a tab. -/
def IsPlain (c : Char) : Prop :=
  (' ' ≤ c ∧ c ≤ '~') ∨ c = '\t'

instance (c : Char) : Decidable (IsPlain c) :=
  inferInstanceAs (Decidable (_ ∨ _))

theorem IsPlain.lt {c : Char} (h : IsPlain c) : c.toNat < 128 := by
  rcases h with ⟨-, h⟩ | rfl
  · exact Nat.lt_of_le_of_lt h (by decide)
  · decide

/-- What holds of the 128 characters of ASCII holds of every one of them. -/
theorem ascii_forall {P : Char → Prop} (h : ∀ n < 128, P (Char.ofNat n)) {c : Char}
    (hc : c.toNat < 128) : P c := by
  have hValue := h c.toNat hc
  rwa [Char.ofNat_toNat] at hValue

theorem forall_of_all {P : Char → Prop} [DecidablePred P] {text : List Char}
    (h : (text.all fun c => decide (P c)) = true) : ∀ c ∈ text, P c :=
  fun c hc => of_decide_eq_true (List.all_eq_true.mp h c hc)

/-- A plain character can stand in the value of a header. -/
theorem IsPlain.isReadableByte {c : Char} (h : IsPlain c) :
    isReadableByte (UInt8.ofNat c.toNat) = true := by
  exact ascii_forall (P := fun c => IsPlain c → Text.isReadableByte (UInt8.ofNat c.toNat) = true)
    (by decide) h.lt h

/-- A header with plain characters is read as it was written. -/
theorem readable?_ofText {text : List Char} (h : ∀ c ∈ text, IsPlain c) :
    readable? (Bytes.ofText (String.ofList text)) = some text := by
  rw [Bytes.ofText_ofList_of_ascii fun c hc => (h c hc).lt, readable?, if_pos]
  · rw [List.map_map]
    congr 1
    refine (List.map_congr_left fun c hc => ?_).trans (List.map_id text)
    have hBound := (h c hc).lt
    simp only [Function.comp_apply, UInt8.toNat_ofNat']
    rw [Nat.mod_eq_of_lt (by omega), Char.ofNat_toNat]
    rfl
  · rw [List.all_map, List.all_eq_true]
    exact fun c hc => (h c hc).isReadableByte

theorem isPlain_of_isReadableByte {byte : UInt8} (h : isReadableByte byte = true) :
    IsPlain (Char.ofNat byte.toNat) := by
  have hAll : ∀ n < 256, isReadableByte (UInt8.ofNat n) = true → IsPlain (Char.ofNat n) := by
    decide +kernel
  refine hAll byte.toNat byte.toNat_lt ?_
  rwa [UInt8.ofNat_toNat]

/-- A value that can be read has plain characters only. -/
theorem isPlain_of_readable? {bytes : Bytes} {text : List Char} (h : readable? bytes = some text) :
    ∀ c ∈ text, IsPlain c := by
  unfold readable? at h
  split at h
  · next hAll =>
    cases h
    intro c hc
    obtain ⟨byte, hByte, rfl⟩ := List.mem_map.mp hc
    exact isPlain_of_isReadableByte (List.all_eq_true.mp hAll byte hByte)
  · cases h

/-- The bytes of a header that can be read are those of plain characters. -/
theorem readable?_eq_some_iff {bytes : Bytes} {text : List Char} :
    readable? bytes = some text ↔
      (∀ c ∈ text, IsPlain c) ∧ bytes = Bytes.ofText (String.ofList text) := by
  constructor
  · intro h
    have hPlain := isPlain_of_readable? h
    refine ⟨hPlain, ?_⟩
    have hBack : ∀ n < 256, UInt8.ofNat (Char.ofNat n).toNat = UInt8.ofNat n := by decide +kernel
    rw [Bytes.ofText_ofList_of_ascii fun c hc => (hPlain c hc).lt]
    unfold readable? at h
    split at h
    · cases h
      rw [List.map_map]
      refine ((List.map_congr_left fun byte _ => ?_).trans (List.map_id bytes)).symm
      have hByte := hBack byte.toNat byte.toNat_lt
      rwa [UInt8.ofNat_toNat] at hByte
    · cases h
  · rintro ⟨hPlain, rfl⟩
    exact readable?_ofText hPlain

end Text

end Gatehouse
