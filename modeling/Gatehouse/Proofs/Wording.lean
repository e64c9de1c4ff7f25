import Mathlib.Data.List.Induction
import Gatehouse.Config.Basic

/-! Which texts stand for what in the environment and on the command line: numbers, switches, fail
modes and the names of settings. Each text that is read stands for just what it is read as. -/
namespace Gatehouse

namespace Text

variable {bound n : Nat} {text digits : List Char}

/-! ## Numbers -/

/-- A number in decimal digits, one more digit at a time. -/
inductive Numeral : List Char → Nat → Prop
  | single {c : Char} : isDigit c = true → Numeral [c] (digitValue c)
  | append {digits : List Char} {n : Nat} {c : Char} : Numeral digits n → isDigit c = true →
      Numeral (digits ++ [c]) (10 * n + digitValue c)

/-- A digit at the end counts once, and the others ten times as much. -/
theorem digitsValue_append (digits : List Char) (c : Char) :
    digitsValue (digits ++ [c]) = 10 * digitsValue digits + digitValue c := by
  unfold digitsValue
  rw [List.foldl_append]
  rfl

theorem Numeral.isDigit {digits : List Char} (h : Numeral digits n) :
    ∀ c ∈ digits, Text.isDigit c = true := by
  induction h with
  | single hDigit => simpa using hDigit
  | append _ hDigit ih =>
      intro c hc
      rcases List.mem_append.mp hc with hc | hc
      · exact ih c hc
      · exact List.mem_singleton.mp hc ▸ hDigit

theorem Numeral.ne_nil (h : Numeral digits n) : digits ≠ [] := by
  cases h <;> simp

/-- A row of digits is a numeral of one number. -/
theorem Numeral.eq_digitsValue (h : Numeral digits n) : n = digitsValue digits := by
  induction h with
  | single _ => simp [digitsValue]
  | append _ _ ih => rw [digitsValue_append, ih]

/-- Any row of digits is a numeral, however many zeros are in front. -/
theorem numeral_digitsValue (hSome : digits ≠ []) (hDigits : ∀ c ∈ digits, isDigit c = true) :
    Numeral digits (digitsValue digits) := by
  induction digits using List.reverseRecOn with
  | nil => exact (hSome rfl).elim
  | append_singleton digits c ih =>
      have hLast : isDigit c = true := hDigits c (by simp)
      rw [digitsValue_append]
      cases digits with
      | nil => simpa [digitsValue] using Numeral.single hLast
      | cons first rest =>
          exact .append (ih (by simp) fun d hd => hDigits d (List.mem_append_left _ hd)) hLast

/-- Digits are read as the number that they are a numeral of. -/
theorem readDigits?_eq_some_iff : readDigits? digits = some n ↔ Numeral digits n := by
  unfold readDigits?
  rw [Option.ite_none_right_eq_some, List.all_eq_true]
  constructor
  · rintro ⟨⟨hSome, hDigits⟩, hValue⟩
    cases hValue
    exact numeral_digitsValue hSome hDigits
  · intro h
    exact ⟨⟨h.ne_nil, h.isDigit⟩, congrArg some h.eq_digitsValue.symm⟩

/-- A number with or without a plus sign. -/
def Unsigned (text : List Char) (n : Nat) : Prop :=
  Numeral text n ∨ ∃ digits, text = '+' :: digits ∧ Numeral digits n

def SpellsNat (bound : Nat) (text : List Char) (n : Nat) : Prop :=
  Unsigned text n ∧ n ≤ bound

/-- A number with a minus sign, a plus sign or none. -/
def Signed (text : List Char) (n : Int) : Prop :=
  (∃ size : Nat, Unsigned text size ∧ n = size) ∨
    ∃ digits size, text = '-' :: digits ∧ Numeral digits size ∧ n = -(size : Int)

def SpellsInt (low high : Int) (text : List Char) (n : Int) : Prop :=
  Signed text n ∧ low ≤ n ∧ n ≤ high

/-- A sign is no digit. -/
theorem not_numeral_of_sign {sign : Char} (hSign : isDigit sign = false) (n : Nat) :
    ¬ Numeral (sign :: digits) n := by
  intro h
  have hDigit := h.isDigit sign (List.mem_cons_self ..)
  rw [hSign] at hDigit
  cases hDigit

/-- A plus in front means nothing. -/
theorem unsigned_plus_iff : Unsigned ('+' :: digits) n ↔ Numeral digits n := by
  constructor
  · rintro (h | ⟨others, hSame, h⟩)
    · exact (not_numeral_of_sign rfl n h).elim
    · cases hSame
      exact h
  · exact fun h => .inr ⟨digits, rfl, h⟩

theorem unsigned_iff_of_plain (hPlain : ∀ digits, text ≠ '+' :: digits) :
    Unsigned text n ↔ Numeral text n := by
  constructor
  · rintro (h | ⟨digits, hSame, -⟩)
    · exact h
    · exact (hPlain digits hSame).elim
  · exact .inl

/-- A minus in front turns the number around, and no further sign may follow. -/
theorem signed_minus_iff {n : Int} :
    Signed ('-' :: digits) n ↔ ∃ size : Nat, Numeral digits size ∧ n = -(size : Int) := by
  constructor
  · rintro (⟨size, hSize, -⟩ | ⟨others, size, hSame, hSize, hn⟩)
    · rw [unsigned_iff_of_plain (by simp)] at hSize
      exact (not_numeral_of_sign rfl size hSize).elim
    · cases hSame
      exact ⟨size, hSize, hn⟩
  · rintro ⟨size, hSize, hn⟩
    exact .inr ⟨digits, size, rfl, hSize, hn⟩

/-- Without a minus a number is as it is without a sign. -/
theorem signed_iff_of_plain {n : Int} (hPlain : ∀ digits, text ≠ '-' :: digits) :
    Signed text n ↔ ∃ size : Nat, Unsigned text size ∧ n = size := by
  constructor
  · rintro (h | ⟨digits, size, hSame, -⟩)
    · exact h
    · exact (hPlain digits hSame).elim
  · exact .inl

theorem bind_ite_eq_some_iff {α : Type} {reading : Option α} {holds : α → Prop}
    [DecidablePred holds] {value : α} :
    (reading.bind fun read => if holds read then some read else none) = some value ↔
      reading = some value ∧ holds value := by
  cases reading with
  | none => simp
  | some read =>
      rw [Option.bind_some, Option.ite_none_right_eq_some, Option.some_inj]
      constructor <;> rintro ⟨h, h'⟩
      · exact ⟨h', h' ▸ h⟩
      · exact ⟨h ▸ h', h⟩

/-- A number is read from the texts that spell it within the bound. -/
theorem readNat?_eq_some_iff : readNat? bound text = some n ↔ SpellsNat bound text n := by
  unfold readNat? SpellsNat
  dsimp only
  split
  · refine bind_ite_eq_some_iff.trans (and_congr_left fun _ => ?_)
    rw [readDigits?_eq_some_iff, unsigned_plus_iff]
  · next hPlain =>
    refine bind_ite_eq_some_iff.trans (and_congr_left fun _ => ?_)
    rw [readDigits?_eq_some_iff, unsigned_iff_of_plain hPlain]

/-- No text spells two numbers. -/
theorem SpellsNat.unique {other : Nat} (h : SpellsNat bound text n)
    (hOther : SpellsNat bound text other) : n = other :=
  Option.some_inj.mp
    ((readNat?_eq_some_iff.mpr h).symm.trans (readNat?_eq_some_iff.mpr hOther))

/-- What is read of the digits is given the sign. -/
theorem map_readDigits?_eq_some_iff {sign : Int → Int} {n : Int} :
    (Option.map sign do let size ← readDigits? digits; pure (size : Int)) = some n ↔
      ∃ size, Numeral digits size ∧ n = sign size := by
  simp only [Option.map_eq_some_iff, Option.bind_eq_bind, Option.bind_eq_some_iff,
    Option.pure_def, Option.some_inj, ← readDigits?_eq_some_iff]
  constructor
  · rintro ⟨_, ⟨size, hSize, rfl⟩, rfl⟩
    exact ⟨size, hSize, rfl⟩
  · rintro ⟨size, hSize, rfl⟩
    exact ⟨_, ⟨size, hSize, rfl⟩, rfl⟩

theorem readInt?_eq_some_iff {low high n : Int} :
    readInt? low high text = some n ↔ SpellsInt low high text n := by
  unfold readInt? SpellsInt
  dsimp only
  split
  · refine bind_ite_eq_some_iff.trans (and_congr_left fun _ => ?_)
    rw [signed_minus_iff]
    exact map_readDigits?_eq_some_iff
  · next rest =>
    have hMinus : ∀ digits, '+' :: rest ≠ '-' :: digits := by simp
    refine bind_ite_eq_some_iff.trans (and_congr_left fun _ => ?_)
    simp only [signed_iff_of_plain hMinus, unsigned_plus_iff]
    exact map_readDigits?_eq_some_iff
  · next hMinus hPlus =>
    refine bind_ite_eq_some_iff.trans (and_congr_left fun _ => ?_)
    simp only [signed_iff_of_plain hMinus, unsigned_iff_of_plain hPlus]
    exact map_readDigits?_eq_some_iff

end Text

/-! ## Switches and fail modes -/

namespace Config

/-- The words that turn something on or off, in any case of their letters. -/
def switchWords : Bool → List String
  | true => ["1", "true", "yes", "on"]
  | false => ["0", "false", "no", "off"]

def SpellsSwitch (text : List Char) (value : Bool) : Prop :=
  String.ofList (Text.lower text) ∈ switchWords value

/-- A switch is read from its words, in any case of their letters. -/
theorem readBool?_eq_some_iff {text : List Char} {value : Bool} :
    readBool? text = some value ↔ SpellsSwitch text value := by
  have hOn : SpellsSwitch text true ↔ String.ofList (Text.lower text) = "1" ∨
      String.ofList (Text.lower text) = "true" ∨ String.ofList (Text.lower text) = "yes" ∨
      String.ofList (Text.lower text) = "on" := by
    simp [SpellsSwitch, switchWords]
  have hOff : SpellsSwitch text false ↔ String.ofList (Text.lower text) = "0" ∨
      String.ofList (Text.lower text) = "false" ∨ String.ofList (Text.lower text) = "no" ∨
      String.ofList (Text.lower text) = "off" := by
    simp [SpellsSwitch, switchWords]
  -- No word does both.
  have hApart : SpellsSwitch text true → ¬ SpellsSwitch text false := by
    rw [hOn, hOff]
    rintro (h | h | h | h) <;> rw [h] <;> decide
  unfold readBool?
  dsimp only
  split
  · next hWord =>
    have hTrue := hOn.mpr hWord
    cases value <;> simp [hTrue, hApart hTrue]
  · next hWord =>
    have hTrue := mt hOn.mp hWord
    split
    · next hOther =>
      have hFalse := hOff.mpr hOther
      cases value <;> simp [hTrue, hFalse]
    · next hOther =>
      have hFalse := mt hOff.mp hOther
      cases value <;> simp [hTrue, hFalse]

/-- No word turns a switch both on and off. -/
theorem SpellsSwitch.unique {text : List Char} {value other : Bool} (h : SpellsSwitch text value)
    (hOther : SpellsSwitch text other) : value = other :=
  Option.some_inj.mp
    ((readBool?_eq_some_iff.mpr h).symm.trans (readBool?_eq_some_iff.mpr hOther))

end Config

namespace RateLimit.FailMode

/-- The name of the mode, in any case of its letters and with any blanks around it. -/
def Spells (text : String) (mode : FailMode) : Prop :=
  String.ofList (Text.lower (Text.trim text.toList)) = mode.name

/-- A mode is read from its own word. -/
theorem parse_eq_ok_iff {text : String} {mode : FailMode} :
    parse text = .ok mode ↔ Spells text mode := by
  unfold parse Spells
  dsimp only
  split
  · next hOpen =>
    rw [hOpen]
    cases mode <;> simp [name]
  · next hOpen =>
    split
    · next hClosed =>
      rw [hClosed]
      cases mode <;> simp [name]
    · next hClosed => cases mode <;> simp [name, hOpen, hClosed]

/-- No word names both modes. -/
theorem Spells.unique {text : String} {mode other : FailMode} (h : Spells text mode)
    (hOther : Spells text other) : mode = other :=
  Except.ok.inj ((parse_eq_ok_iff.mpr h).symm.trans (parse_eq_ok_iff.mpr hOther))

end RateLimit.FailMode

/-! ## Names of settings -/

namespace Setting

/-- A letter or an underscore, and then letters, digits and underscores. -/
def IsIdentifier (text : List Char) : Prop :=
  ∃ first rest, text = first :: rest ∧ (Text.isLetter first = true ∨ first = '_') ∧
    ∀ c ∈ rest, Text.isLetter c = true ∨ Text.isDigit c = true ∨ c = '_'

/-- Two identifiers with a dot between. -/
def IsName (name : List Char) : Prop :=
  ∃ qualifier rest, name = qualifier ++ '.' :: rest ∧ IsIdentifier qualifier ∧ IsIdentifier rest

/-- The characters of an identifier are letters, digits and underscores. -/
theorem isIdentifierChar_iff {c : Char} : isIdentifierChar c = true ↔
    Text.isLetter c = true ∨ Text.isDigit c = true ∨ c = '_' := by
  simp [isIdentifierChar, or_assoc]

theorem not_isDigit_of_begins {c : Char} (h : Text.isLetter c = true ∨ c = '_') :
    Text.isDigit c = false := by
  rcases h with h | rfl
  · simp only [Text.isLetter, Text.isDigit, Bool.or_eq_true, Bool.and_eq_true, decide_eq_true_eq,
      Bool.and_eq_false_iff, decide_eq_false_iff_not, Char.le_def, UInt32.le_iff_toNat_le] at h ⊢
    have hDigits : '9'.val.toNat = 57 := rfl
    have hCapitals : 'A'.val.toNat = 65 := rfl
    have hSmall : 'a'.val.toNat = 97 := rfl
    omega
  · rfl

/-- An identifier is such a word that does not begin with a digit. -/
theorem isIdentifier_iff {text : List Char} : isIdentifier text = true ↔ IsIdentifier text := by
  cases text with
  | nil => simp [isIdentifier, IsIdentifier]
  | cons first rest =>
      simp only [isIdentifier, IsIdentifier, List.all_cons, Bool.and_eq_true, List.all_eq_true,
        isIdentifierChar_iff, Bool.not_eq_true', List.cons.injEq]
      constructor
      · rintro ⟨⟨hFirst, hRest⟩, hDigit⟩
        refine ⟨first, rest, ⟨rfl, rfl⟩, ?_, hRest⟩
        simpa [hDigit] using hFirst
      · rintro ⟨first, rest, ⟨rfl, rfl⟩, hFirst, hRest⟩
        exact ⟨⟨hFirst.imp_right .inr, hRest⟩, not_isDigit_of_begins hFirst⟩

theorem IsIdentifier.isIdentifierChar {text : List Char} (h : IsIdentifier text) :
    ∀ c ∈ text, Setting.isIdentifierChar c = true := by
  obtain ⟨first, rest, rfl, hFirst, hRest⟩ := h
  intro c hc
  rw [isIdentifierChar_iff]
  rcases List.mem_cons.mp hc with rfl | hc
  · exact hFirst.imp_right .inr
  · exact hRest c hc

/-- A dot is none of them, so it can stand between two identifiers. -/
theorem IsIdentifier.dot_not_mem {text : List Char} (h : IsIdentifier text) : '.' ∉ text := by
  intro hDot
  cases h.isIdentifierChar '.' hDot

/-- The check takes the names of settings, and nothing else. -/
theorem isValidName_iff {name : List Char} : isValidName name = true ↔ IsName name := by
  unfold isValidName IsName
  constructor
  · intro h
    split at h
    · next qualifier rest hSplit =>
      rw [Bool.and_eq_true, isIdentifier_iff, isIdentifier_iff] at h
      refine ⟨qualifier, rest, ?_, h⟩
      rw [← List.splitOn_eq_splitOnP] at hSplit
      have hJoined : ['.'].intercalate (name.splitOn '.') = name := List.intercalate_splitOn '.'
      rw [← hJoined, hSplit]
      simp [List.intercalate]
    · cases h
  · rintro ⟨qualifier, rest, rfl, hQualifier, hRest⟩
    have hSplit : (qualifier ++ '.' :: rest).splitOnP (· == '.') = [qualifier, rest] := by
      have hNoDot {text : List Char} (h : IsIdentifier text) : ∀ c ∈ text, (c == '.') = false :=
        fun c hc => beq_eq_false_iff_ne.mpr fun hSame => h.dot_not_mem (hSame ▸ hc)
      rw [List.splitOnP_append_cons_of_forall_mem (hNoDot hQualifier) '.' rfl,
        List.splitOnP_eq_singleton (hNoDot hRest)]
    rw [hSplit]
    simp [isIdentifier_iff, hQualifier, hRest]

end Setting

end Gatehouse
