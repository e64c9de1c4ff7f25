import Gatehouse.Proofs.Hosts
import Gatehouse.RateLimit.Client

/-! Which text of a header counts. It is taken from the first value, if all of that can be read: the
whole text without the blanks around it, or, of a list, what stands before the first comma. -/
namespace Gatehouse

/-! ## Trimming -/

namespace Text

/-- Leading blanks are trimmed. -/
theorem trim_blank_append {lead : List Char} (hLead : ∀ c ∈ lead, isBlank c = true)
    (text : List Char) : trim (lead ++ text) = trim text := by
  rw [trim, trimLeft, List.dropWhile_append_of_pos hLead]
  rfl

theorem before_append_of_not_mem {separator : Char} {text : List Char} (h : separator ∉ text)
    (rest : List Char) : before separator (text ++ rest) = text ++ before separator rest :=
  List.takeWhile_append_of_pos fun c hc => by simpa using fun hSame : c = separator => h (hSame ▸ hc)

/-- The blanks around a list do not count for its first entry. -/
theorem trim_before_trim {separator : Char} (hSolid : isBlank separator = false)
    (text : List Char) : trim (before separator (trim text)) = trim (before separator text) := by
  have hNot {blanks : List Char} (h : ∀ c ∈ blanks, isBlank c = true) : separator ∉ blanks :=
    fun hMem => by simp [h separator hMem] at hSolid
  obtain ⟨lead, trail, hText, hBlanks, hHead, hLast⟩ :=
    strips_isBlank_iff.mpr (rfl : trim text = trim text)
  have hLead : ∀ c ∈ lead, isBlank c = true := fun c hc => hBlanks c (List.mem_append_left _ hc)
  have hTrail : ∀ c ∈ trail, isBlank c = true := fun c hc => hBlanks c (List.mem_append_right _ hc)
  generalize trim text = core at hText hHead hLast
  subst hText
  rw [List.append_assoc, before_append_of_not_mem (hNot hLead), trim_blank_append hLead]
  by_cases hMem : separator ∈ core
  · obtain ⟨left, right, rfl⟩ := List.append_of_mem hMem
    rw [List.append_assoc, List.cons_append, before_append_separator, before_append_separator]
  · have hCore : trim ([] ++ core ++ trail) = core := trim_padded (by simp) hTrail hHead hLast
    rw [before_append_of_not_mem hMem, before_eq_self hMem, before_eq_self (hNot hTrail),
      trim_eq_self hHead hLast]
    exact hCore.symm

/-- Trimming keeps a text that begins with no blank, up to any further character that is none. -/
theorem exists_trim_append {front : List Char} (hSome : front ≠ [])
    (hHead : ∀ c ∈ front.head?, isBlank c = false) {c : Char} (hSolid : isBlank c = false)
    (back : List Char) : ∃ rest, trim (front ++ c :: back) = front ++ c :: rest := by
  have hLeft : trimLeft (front ++ c :: back) = front ++ c :: back := by
    obtain ⟨d, front, rfl⟩ := List.exists_cons_of_ne_nil hSome
    exact List.dropWhile_cons_of_neg (by simp [hHead d rfl])
  refine ⟨(back.reverse.dropWhile isBlank).reverse, ?_⟩
  rw [trim, hLeft, trimRight, List.reverse_append, List.reverse_cons, List.append_assoc,
    List.dropWhile_append]
  split
  · next hEmpty => simp [List.isEmpty_iff.mp hEmpty, hSolid]
  · simp

/-- What stands behind a comma decides with whether a value can be read. -/
theorem readable?_append_comma (front back : Bytes) :
    readable? (front ++ 0x2C :: back) =
      if back.all isReadableByte then
        (readable? front).map (· ++ ',' :: back.map fun b => Char.ofNat b.toNat)
      else none := by
  have hComma : isReadableByte 0x2C = true := rfl
  unfold readable?
  rw [List.all_append, List.all_cons, hComma, Bool.true_and]
  cases front.all isReadableByte <;> cases back.all isReadableByte <;> simp

end Text

/-! ## First values -/

namespace Http.Headers

variable {headers others : Headers} {name : String} {text : List Char}

/-- The first value of the header is this text, perhaps with blanks around it. -/
def Holds (headers : Headers) (name : String) (text : List Char) : Prop :=
  ∃ value, headers.first? name = some (Bytes.ofText (String.ofList value)) ∧
    (∀ c ∈ value, Text.IsPlain c) ∧ Text.Strips Text.isBlank value text ∧ text ≠ []

/-- The first value of the header is a list, and this is what stands before its first comma, perhaps
with blanks around it. -/
def Lists (headers : Headers) (name : String) (text : List Char) : Prop :=
  ∃ entry more, headers.first? name = some (Bytes.ofText (String.ofList (entry ++ more))) ∧
    (∀ c ∈ entry ++ more, Text.IsPlain c) ∧ ',' ∉ entry ∧ (∀ c ∈ more.head?, c = ',') ∧
    Text.Strips Text.isBlank entry text ∧ text ≠ []

/-- The first entry of the first value of a header, without its outer blanks, if the value can be read
and the entry is not blank. -/
def foremost? (headers : Headers) (name : String) : Option (List Char) :=
  match (headers.first? name).bind Text.readable? with
  | none => none
  | some value =>
    let entry := Text.trim (Text.before ',' value)
    if entry.isEmpty then none else some entry

/-- A value is read if it consists of plain characters. -/
theorem read_eq_some_iff {value : List Char} :
    (headers.first? name).bind Text.readable? = some value ↔
      headers.first? name = some (Bytes.ofText (String.ofList value)) ∧
        ∀ c ∈ value, Text.IsPlain c := by
  simp only [Option.bind_eq_some_iff, Text.readable?_eq_some_iff]
  constructor
  · rintro ⟨bytes, hFirst, hPlain, rfl⟩
    exact ⟨hFirst, hPlain⟩
  · rintro ⟨hFirst, hPlain⟩
    exact ⟨_, hFirst, hPlain, rfl⟩

/-- A trimmed value is one that the headers hold. -/
theorem trimmed?_eq_some_iff : headers.trimmed? name = some text ↔ headers.Holds name text := by
  unfold trimmed? Holds
  simp only [Text.strips_isBlank_iff]
  constructor
  · intro h
    split at h
    · cases h
    · next value hRead =>
      obtain ⟨hFirst, hPlain⟩ := read_eq_some_iff.mp hRead
      split at h
      · cases h
      · next hSome =>
        cases h
        exact ⟨value, hFirst, hPlain, rfl, by simpa using hSome⟩
  · rintro ⟨value, hFirst, hPlain, rfl, hSome⟩
    rw [read_eq_some_iff.mpr ⟨hFirst, hPlain⟩]
    exact if_neg (by simpa using hSome)

/-- A foremost value is the first that the headers list. -/
theorem foremost?_eq_some_iff : headers.foremost? name = some text ↔ headers.Lists name text := by
  unfold foremost? Lists
  simp only [Text.strips_isBlank_iff]
  constructor
  · intro h
    split at h
    · cases h
    · next value hRead =>
      obtain ⟨hFirst, hPlain⟩ := read_eq_some_iff.mp hRead
      split at h
      · cases h
      · next hSome =>
        cases h
        have hValue : Text.before ',' value ++ value.dropWhile (· != ',') = value :=
          List.takeWhile_append_dropWhile
        refine ⟨Text.before ',' value, value.dropWhile (· != ','), by rw [hValue, hFirst],
          by rwa [hValue], fun hMem => ?_, fun c hc => ?_, rfl, by simpa using hSome⟩
        · simpa using List.mem_takeWhile_imp hMem
        · have hNot := List.head?_dropWhile_not (· != ',') value
          rw [Option.mem_def.mp hc] at hNot
          simpa using hNot
  · rintro ⟨entry, more, hFirst, hPlain, hEntry, hMore, rfl, hSome⟩
    rw [read_eq_some_iff.mpr ⟨hFirst, hPlain⟩]
    simp only [Text.before_append hEntry hMore]
    exact if_neg (by simpa using hSome)

theorem trimmed?_eq_none_iff :
    headers.trimmed? name = none ↔ ∀ text, ¬ headers.Holds name text := by
  simp only [Option.eq_none_iff_forall_ne_some, ne_eq, trimmed?_eq_some_iff]

theorem foremost?_eq_none_iff : headers.foremost? name = none ↔ ∀ text, ¬ headers.Lists name text := by
  simp only [Option.eq_none_iff_forall_ne_some, ne_eq, foremost?_eq_some_iff]

/-- The headers hold a value whatever blanks are around it. -/
theorem holds_trim {value : List Char}
    (h : headers.first? name = some (Bytes.ofText (String.ofList value)))
    (hPlain : ∀ c ∈ value, Text.IsPlain c) (hSome : Text.trim value ≠ []) :
    headers.Holds name (Text.trim value) :=
  ⟨value, h, hPlain, Text.strips_isBlank_iff.mpr rfl, hSome⟩

/-- They list it whatever comes after the first comma. -/
theorem lists_trim {entry more : List Char}
    (h : headers.first? name = some (Bytes.ofText (String.ofList (entry ++ more))))
    (hEntry : ∀ c ∈ entry, Text.IsPlain c ∧ c ≠ ',') (hPlain : ∀ c ∈ more, Text.IsPlain c)
    (hMore : ∀ c ∈ more.head?, c = ',') (hSome : Text.trim entry ≠ []) :
    headers.Lists name (Text.trim entry) :=
  ⟨entry, more, h, List.forall_mem_append.mpr ⟨fun c hc => (hEntry c hc).1, hPlain⟩,
    fun hMem => (hEntry ',' hMem).2 rfl, hMore, Text.strips_isBlank_iff.mpr rfl, hSome⟩

theorem trimmed?_congr (h : others.first? name = headers.first? name) :
    others.trimmed? name = headers.trimmed? name := by
  rw [trimmed?, trimmed?, h]

theorem foremost?_congr (h : others.first? name = headers.first? name) :
    others.foremost? name = headers.foremost? name := by
  rw [foremost?, foremost?, h]

/-- Two lists that differ only behind a comma, where both of them can be read or neither can. -/
def DifferBehindComma (value other : Bytes) : Prop :=
  ∃ front back otherBack, value = front ++ 0x2C :: back ∧ other = front ++ 0x2C :: otherBack ∧
    back.all Text.isReadableByte = otherBack.all Text.isReadableByte

/-- What stands behind the first comma does not count. -/
theorem foremost?_of_differBehindComma {value other : Bytes}
    (hValue : headers.first? name = some value) (hOther : others.first? name = some other)
    (h : DifferBehindComma value other) : others.foremost? name = headers.foremost? name := by
  obtain ⟨front, back, otherBack, rfl, rfl, hReadable⟩ := h
  rw [foremost?, foremost?, hValue, hOther, Option.bind_some, Option.bind_some,
    Text.readable?_append_comma, Text.readable?_append_comma, hReadable]
  cases otherBack.all Text.isReadableByte with
  | false => rfl
  | true =>
      cases Text.readable? front with
      | none => rfl
      | some text => simp only [if_true, Option.map_some, Text.before_append_separator]

end Http.Headers

end Gatehouse
