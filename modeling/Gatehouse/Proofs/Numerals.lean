import Mathlib.Data.List.Induction
import Gatehouse.Proofs.Grammar

/-! Numbers are read as the grammar has them: what spells a number is read as that number, and
nothing else is read as a number. -/
namespace Gatehouse.Json

/-! ## Digits -/

/-- A digit at the end counts once, and the others ten times as much. -/
theorem digitBytesValue_append (digits : Bytes) (b : UInt8) :
    digitBytesValue (digits ++ [b]) = 10 * digitBytesValue digits + (b.toNat - 0x30) := by
  rw [digitBytesValue, List.foldl_append]
  rfl

/-- The decimal digit of a byte. -/
theorem exists_digitByte {b : UInt8} (h : isDigitByte b = true) :
    b.toNat - 0x30 < 10 ∧ digitByte (b.toNat - 0x30) = b := by
  simp only [isDigitByte, Bool.and_eq_true, decide_eq_true_eq, UInt8.le_iff_toNat_le] at h
  obtain ⟨hLow, hHigh⟩ := h
  have hLow : 48 ≤ b.toNat := hLow
  have hHigh : b.toNat ≤ 57 := hHigh
  refine ⟨by omega, ?_⟩
  rw [digitByte, show 0x30 + (b.toNat - 0x30) = b.toNat by omega, UInt8.ofNat_toNat]

/-- Digits without a zero in front are those of their value. -/
theorem digitBytes_digitBytesValue {digits : Bytes} (h : IsDigits digits)
    (hHead : ¬ (1 < digits.length ∧ digits.head? = some 0x30)) :
    digitBytes (digitBytesValue digits) = digits := by
  obtain ⟨hSome, hDigits⟩ := h
  induction digits using List.reverseRecOn with
  | nil => exact (hSome rfl).elim
  | append_singleton others b ih =>
      obtain ⟨hLess, hByte⟩ := exists_digitByte (hDigits b (by simp))
      rw [digitBytesValue_append]
      cases others with
      | nil =>
          have hValue : digitBytesValue [] = 0 := rfl
          rw [hValue, Nat.mul_zero, Nat.zero_add, digitBytes_eq, if_pos hLess, hByte]
          rfl
      | cons first rest =>
          have hFirst : first ≠ 0x30 := by
            rintro rfl
            exact hHead ⟨by simp, rfl⟩
          have hOthers := ih (fun hZero => hFirst (by simpa using hZero.2)) (List.cons_ne_nil _ _)
            fun c hc => hDigits c (List.mem_append_left _ hc)
          have hPositive : digitBytesValue (first :: rest) ≠ 0 := by
            intro hZero
            rw [hZero] at hOthers
            exact hFirst (List.cons.inj hOthers).1.symm
          rw [digitBytes_eq, if_neg (by omega),
            show (10 * digitBytesValue (first :: rest) + (b.toNat - 0x30)) / 10 =
              digitBytesValue (first :: rest) by omega,
            show (10 * digitBytesValue (first :: rest) + (b.toNat - 0x30)) % 10 =
              b.toNat - 0x30 by omega, hOthers, hByte]

/-- What is read are the digits in front, all of them. -/
theorem eq_of_readDigits? {bytes digits rest : Bytes}
    (h : readDigits? bytes = some (digits, rest)) : bytes = digits ++ rest ∧ IsDigits digits := by
  unfold readDigits? at h
  dsimp only at h
  split at h
  · cases h
  · next hSome =>
    cases h
    refine ⟨(List.takeWhile_append_dropWhile ..).symm, by simpa using hSome, fun b hb => ?_⟩
    exact List.all_eq_true.mp List.all_takeWhile b hb

/-! ## Fractions and exponents -/

/-- No point and no exponent begins with a digit. -/
def NotDigit (bytes : Bytes) : Prop :=
  ∀ b ∈ bytes.head?, isDigitByte b = false

/-- A fraction begins with its point, so it does not go on the digits before it. -/
theorem SpellsFraction.notDigit {fraction : Option Bytes} {point rest : Bytes}
    (h : SpellsFraction fraction point) (hRest : NotDigit rest) : NotDigit (point ++ rest) := by
  cases h with
  | absent => exact hRest
  | present _ =>
      intro b hb
      cases hb
      decide

theorem SpellsExponent.head? {power : Option Int} {exponent rest : Bytes}
    (h : SpellsExponent power exponent) (hRest : EndsNumber rest) :
    ∀ b ∈ (exponent ++ rest).head?, isDigitByte b = false ∧ b ≠ 0x2E := by
  have hMark {mark : UInt8} (hMark : mark = 0x65 ∨ mark = 0x45) :
      isDigitByte mark = false ∧ mark ≠ 0x2E := by
    rcases hMark with rfl | rfl <;> decide
  cases h with
  | absent =>
      cases rest with
      | nil => nofun
      | cons b rest =>
          intro c hc
          cases hc
          exact ⟨hRest.1, hRest.2.1⟩
  | plain h _ | plus h _ | minus h _ =>
      intro b hb
      cases hb
      exact hMark h

/-- A fraction that is spelled is read. -/
theorem readFraction?_of_spells {fraction : Option Bytes} {point rest : Bytes}
    (h : SpellsFraction fraction point)
    (hRest : ∀ b ∈ rest.head?, isDigitByte b = false ∧ b ≠ 0x2E) :
    readFraction? (point ++ rest) = some (fraction, rest) := by
  cases h with
  | absent =>
      cases rest with
      | nil => rfl
      | cons b rest => exact readFraction?_of_head (hRest b rfl).2 rest
  | present hDigits =>
      rw [List.cons_append, readFraction?, readDigits?_append hDigits fun b hb => (hRest b hb).1]
      rfl

theorem readExponent?_mark {mark : UInt8} (hMark : mark = 0x65 ∨ mark = 0x45) (rest : Bytes) :
    readExponent? (mark :: rest) =
      (readSignedDigits? rest).map fun (n, rest) => (some n, rest) := by
  rw [readExponent?, if_pos hMark]

theorem readExponent?_of_spells {power : Option Int} {exponent rest : Bytes}
    (h : SpellsExponent power exponent) (hRest : EndsNumber rest) :
    readExponent? (exponent ++ rest) = some (power, rest) := by
  cases h with
  | absent => exact readExponent?_end hRest
  | plain hMark hDigits =>
      rw [List.cons_append, readExponent?_mark hMark,
        readSignedDigits?.eq_3 _ (hDigits.ne_sign (by decide) rest)
          (hDigits.ne_sign (by decide) rest), readDigits?_append hDigits hRest.head?]
      rfl
  | plus hMark hDigits =>
      rw [List.cons_append, readExponent?_mark hMark, List.cons_append, readSignedDigits?,
        readDigits?_append hDigits hRest.head?]
      rfl
  | minus hMark hDigits =>
      rw [List.cons_append, readExponent?_mark hMark, List.cons_append, readSignedDigits?,
        readDigits?_append hDigits hRest.head?]
      rfl

/-- A fraction that is read was spelled. -/
theorem exists_spells_of_readFraction? {bytes rest : Bytes} {fraction : Option Bytes}
    (h : readFraction? bytes = some (fraction, rest)) :
    ∃ point, bytes = point ++ rest ∧ SpellsFraction fraction point := by
  unfold readFraction? at h
  split at h
  · obtain ⟨⟨digits, after⟩, hRead, hSame⟩ := Option.map_eq_some_iff.mp h
    cases hSame
    obtain ⟨rfl, hDigits⟩ := eq_of_readDigits? hRead
    exact ⟨_, rfl, .present hDigits⟩
  · cases h
    exact ⟨[], rfl, .absent⟩

theorem exists_spells_of_readSignedDigits? {mark : UInt8} (hMark : mark = 0x65 ∨ mark = 0x45)
    {bytes rest : Bytes} {power : Int} (h : readSignedDigits? bytes = some (power, rest)) :
    ∃ signed, bytes = signed ++ rest ∧ SpellsExponent (some power) (mark :: signed) := by
  unfold readSignedDigits? at h
  split at h
  all_goals
    obtain ⟨⟨digits, after⟩, hRead, hSame⟩ := Option.map_eq_some_iff.mp h
    cases hSame
    obtain ⟨rfl, hDigits⟩ := eq_of_readDigits? hRead
  · exact ⟨_, rfl, .minus hMark hDigits⟩
  · exact ⟨_, rfl, .plus hMark hDigits⟩
  · exact ⟨_, rfl, .plain hMark hDigits⟩

theorem exists_spells_of_readExponent? {bytes rest : Bytes} {power : Option Int}
    (h : readExponent? bytes = some (power, rest)) :
    ∃ exponent, bytes = exponent ++ rest ∧ SpellsExponent power exponent := by
  unfold readExponent? at h
  split at h
  · split at h
    · next hMark =>
      obtain ⟨⟨value, after⟩, hRead, hSame⟩ := Option.map_eq_some_iff.mp h
      cases hSame
      obtain ⟨signed, rfl, hSpells⟩ := exists_spells_of_readSignedDigits? hMark hRead
      exact ⟨_, rfl, hSpells⟩
    · cases h
      exact ⟨[], rfl, .absent⟩
  · cases h
    exact ⟨[], rfl, .absent⟩

/-! ## Numbers -/

/-- The number with these parts. -/
def numeralOf (negative : Bool) (whole : Nat) : Option Bytes → Option Int → Numeral
  | none, none =>
    if negative = true ∧ whole = 0 then .real true 0 0
    else .integer (if negative then -whole else whole)
  | fraction, power =>
    .real negative (digitBytesValue (digitBytes whole ++ fraction.getD []))
      (power.getD 0 - (fraction.getD []).length)

/-- A number is a sign and the parts behind it. -/
theorem spellsNumber_iff {n : Numeral} {literal : Bytes} :
    SpellsNumber n literal ↔ ∃ negative whole fraction power point exponent,
      SpellsFraction fraction point ∧ SpellsExponent power exponent ∧
        n = numeralOf negative whole fraction power ∧
        literal = signBytes negative ++ (digitBytes whole ++ (point ++ exponent)) := by
  constructor
  · intro h
    cases h with
    | integer n =>
        refine ⟨decide (n < 0), n.natAbs, none, none, [], [], .absent, .absent, ?_, ?_⟩
        · by_cases hNegative : n < 0
          · simp only [numeralOf, hNegative, decide_true, true_and, if_true]
            rw [if_neg (by omega)]
            congr 1
            omega
          · simp only [numeralOf, hNegative, decide_false, if_false, Bool.false_eq_true, false_and]
            congr 1
            omega
        · rw [utf8_integerLiteral, signBytes]
          by_cases hNegative : n < 0 <;> simp [hNegative]
    | minusZero => exact ⟨true, 0, none, none, [], [], .absent, .absent, rfl, rfl⟩
    | real negative whole hFraction hExponent hReal =>
        refine ⟨negative, whole, _, _, _, _, hFraction, hExponent, ?_, rfl⟩
        unfold numeralOf
        split
        · simp at hReal
        · rfl
  · rintro ⟨negative, whole, fraction, power, point, exponent, hFraction, hExponent, rfl, rfl⟩
    unfold numeralOf
    split
    · cases hFraction
      cases hExponent
      rw [List.append_nil, List.append_nil]
      split
      · next hZero =>
        obtain ⟨rfl, rfl⟩ := hZero
        exact .minusZero
      · next hSome =>
        have hInteger := SpellsNumber.integer (if negative then -whole else whole)
        rw [utf8_integerLiteral] at hInteger
        cases negative with
        | true =>
            have hPositive : whole ≠ 0 := fun hZero => hSome ⟨rfl, hZero⟩
            simp only [if_true, Int.natAbs_neg, Int.natAbs_natCast] at hInteger
            rw [if_pos (by omega)] at hInteger
            exact hInteger
        | false =>
            simp only [Bool.false_eq_true, if_false, Int.natAbs_natCast] at hInteger
            rw [if_neg (by omega)] at hInteger
            exact hInteger
    · next hReal =>
      refine .real negative whole hFraction hExponent ?_
      cases fraction with
      | some digits => exact .inl (Option.some_ne_none digits)
      | none => exact .inr fun hNone => hReal rfl hNone

/-- The three parts of a number are read one after the other. -/
theorem readUnsigned?_of_spells (negative : Bool) (whole : Nat) {fraction : Option Bytes}
    {power : Option Int} {point exponent rest : Bytes} (hFraction : SpellsFraction fraction point)
    (hExponent : SpellsExponent power exponent) (hRest : EndsNumber rest) :
    readUnsigned? negative (digitBytes whole ++ (point ++ (exponent ++ rest))) =
      some (numeralOf negative whole fraction power, rest) := by
  have hAfter := hExponent.head? hRest
  have hStop : NotDigit (point ++ (exponent ++ rest)) :=
    hFraction.notDigit fun b hb => (hAfter b hb).1
  simp only [readUnsigned?, readDigits?_append (isDigits_digitBytes whole) hStop,
    Option.bind_eq_bind, Option.bind_some, readFraction?_of_spells hFraction hAfter,
    readExponent?_of_spells hExponent hRest, digitBytesValue_digitBytes,
    if_neg (not_leadingZero whole)]
  unfold numeralOf
  cases fraction <;> cases power <;> dsimp only
  split <;> rfl

/-- A number that is read had these parts. -/
theorem exists_parts_of_readUnsigned? {negative : Bool} {bytes rest : Bytes} {n : Numeral}
    (h : readUnsigned? negative bytes = some (n, rest)) :
    ∃ whole fraction power point exponent,
      SpellsFraction fraction point ∧ SpellsExponent power exponent ∧
        n = numeralOf negative whole fraction power ∧
        bytes = digitBytes whole ++ (point ++ (exponent ++ rest)) := by
  simp only [readUnsigned?, Option.bind_eq_bind, Option.bind_eq_some_iff] at h
  obtain ⟨⟨digits, afterDigits⟩, hDigits, h⟩ := h
  dsimp only at h
  split at h
  · simp at h
  · next hHead =>
    simp only [Option.bind_eq_some_iff] at h
    obtain ⟨⟨fraction, afterFraction⟩, hFraction, ⟨power, afterPower⟩, hPower, h⟩ := h
    obtain ⟨rfl, hRun⟩ := eq_of_readDigits? hDigits
    obtain ⟨point, rfl, hPoint⟩ := exists_spells_of_readFraction? hFraction
    obtain ⟨exponent, rfl, hExponent⟩ := exists_spells_of_readExponent? hPower
    have hSame := digitBytes_digitBytesValue hRun hHead
    have hParts : n = numeralOf negative (digitBytesValue digits) fraction power ∧
        afterPower = rest := by
      unfold numeralOf
      cases fraction <;> cases power <;> dsimp only at h ⊢
      · split at h <;> cases h <;> simp_all
      all_goals
        cases h
        simp [hSame]
    obtain ⟨rfl, rfl⟩ := hParts
    exact ⟨_, _, _, point, exponent, hPoint, hExponent, rfl, by rw [hSame]⟩

/-- What spells a number is read as that number, if nothing follows that could go on with it. -/
theorem readNumber?_of_spells {n : Numeral} {literal rest : Bytes} (h : SpellsNumber n literal)
    (hRest : EndsNumber rest) : readNumber? (literal ++ rest) = some (n, rest) := by
  obtain ⟨negative, whole, fraction, power, point, exponent, hFraction, hExponent, rfl, rfl⟩ :=
    spellsNumber_iff.mp h
  have hRead := readUnsigned?_of_spells negative whole hFraction hExponent hRest
  simp only [List.append_assoc]
  cases negative with
  | true => exact hRead
  | false =>
      change readNumber? (digitBytes whole ++ _) = _
      rw [readNumber?.eq_2 _ ((isDigits_digitBytes whole).ne_sign (by decide) _)]
      exact hRead

/-- Whatever is read as a number spells it. -/
theorem exists_spells_of_readNumber? {n : Numeral} {bytes rest : Bytes}
    (h : readNumber? bytes = some (n, rest)) :
    ∃ literal, bytes = literal ++ rest ∧ SpellsNumber n literal := by
  have hSigned {negative : Bool} {unsigned : Bytes}
      (hUnsigned : readUnsigned? negative unsigned = some (n, rest)) :
      ∃ literal, signBytes negative ++ unsigned = literal ++ rest ∧ SpellsNumber n literal := by
    obtain ⟨whole, fraction, power, point, exponent, hFraction, hExponent, hn, rfl⟩ :=
      exists_parts_of_readUnsigned? hUnsigned
    refine ⟨_, ?_, spellsNumber_iff.mpr
      ⟨negative, whole, fraction, power, point, exponent, hFraction, hExponent, hn, rfl⟩⟩
    simp only [List.append_assoc]
  unfold readNumber? at h
  split at h
  · exact hSigned h
  · exact hSigned h

/-- A number begins with a digit or a minus sign. -/
theorem SpellsNumber.head {n : Numeral} {literal : Bytes} (h : SpellsNumber n literal) :
    ∃ b more, literal = b :: more ∧ (b = 0x2D ∨ isDigitByte b = true) := by
  obtain ⟨negative, whole, fraction, power, point, exponent, -, -, -, rfl⟩ := spellsNumber_iff.mp h
  cases negative with
  | true => exact ⟨_, _, rfl, .inl rfl⟩
  | false =>
      obtain ⟨b, more, hDigits, hDigit⟩ := (isDigits_digitBytes whole).head
      exact ⟨b, more ++ (point ++ exponent), by rw [hDigits]; rfl, .inr hDigit⟩

end Gatehouse.Json
