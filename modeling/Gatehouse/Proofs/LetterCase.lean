import Gatehouse.Proofs.Encoding
import Gatehouse.Text.Pieces

/-! The case of letters. It makes no difference to where a text is trimmed or cut, because neither a
blank nor a separator is a letter. -/
namespace Gatehouse

namespace Text

/-- Lower case changes the 26 capital letters and nothing else. -/
theorem lowerChar_rec {P : Char → Char → Prop} (hSame : ∀ c, P c c)
    (hCapital : ∀ n < 26, P (Char.ofNat (65 + n)) (Char.ofNat (97 + n))) (c : Char) :
    P c (lowerChar c) := by
  unfold lowerChar
  split
  · next hUpper =>
    have hLow : 65 ≤ c.toNat := hUpper.1
    have hHigh : c.toNat ≤ 90 := hUpper.2
    have hLetter := hCapital (c.toNat - 65) (by omega)
    rwa [show 65 + (c.toNat - 65) = c.toNat by omega, Char.ofNat_toNat,
      show 97 + (c.toNat - 65) = c.toNat + 32 by omega] at hLetter
  · exact hSame c

theorem isPlain_lowerChar (c : Char) : IsPlain (lowerChar c) ↔ IsPlain c :=
  lowerChar_rec (P := fun c d => IsPlain d ↔ IsPlain c) (fun _ => .rfl) (by decide) c

theorem isBlank_lowerChar (c : Char) : isBlank (lowerChar c) = isBlank c :=
  lowerChar_rec (P := fun c d => isBlank d = isBlank c) (fun _ => rfl) (by decide) c

/-- No letter is taken for a separator, whatever its case. -/
theorem lowerChar_beq {separator : Char} (h : separator ∈ ['.', ':', ',']) (c : Char) :
    (lowerChar c == separator) = (c == separator) := by
  refine lowerChar_rec (P := fun c d => (d == separator) = (c == separator)) (fun _ => rfl) ?_ c
  simp only [List.mem_cons, List.not_mem_nil, or_false] at h
  rcases h with rfl | rfl | rfl <;> decide

/-- No capital letter is left. -/
theorem not_upper_lowerChar (c : Char) : ¬ ('A' ≤ lowerChar c ∧ lowerChar c ≤ 'Z') := by
  by_cases hUpper : 'A' ≤ c ∧ c ≤ 'Z'
  · have hBound : c.toNat < 128 := Nat.lt_of_le_of_lt hUpper.2 (by decide)
    exact ascii_forall (P := fun c => ¬ ('A' ≤ lowerChar c ∧ lowerChar c ≤ 'Z')) (by decide) hBound
  · rwa [lowerChar, if_neg hUpper]

/-- The separators have no case, so a text may be cut before or after. -/
theorem lower_before {separator : Char} (h : separator ∈ ['.', ':', ',']) (text : List Char) :
    lower (before separator text) = before separator (lower text) := by
  have hSame : (fun c => c != separator) ∘ lowerChar = fun c => c != separator := by
    funext c
    simp only [Function.comp_apply, bne, lowerChar_beq h]
  rw [before, before, lower, lower, List.takeWhile_map, hSame]

theorem lower_trim (text : List Char) : lower (trim text) = trim (lower text) := by
  have hSame : isBlank ∘ lowerChar = isBlank := by
    funext c
    exact isBlank_lowerChar c
  simp only [lower, trim, trimRight, trimLeft, List.dropWhile_map, ← List.map_reverse, hSame]

end Text

end Gatehouse
