import Gatehouse.Json.Printer
import Gatehouse.Proofs.Parsing

/-! What is written for a JSON value is a text of that value, and so it is read as that value and
as no other. -/
namespace Gatehouse.Json

variable {α β : Type}

/-! ## Texts of another type -/

def Token.map (f : α → β) : Token α → Token β
  | .openBracket => .openBracket
  | .closeBracket => .closeBracket
  | .openBrace => .openBrace
  | .closeBrace => .closeBrace
  | .comma => .comma
  | .colon => .colon
  | .null => .null
  | .bool value => .bool value
  | .number value => .number value
  | .string text => .string (f text)

mutual

/-- The value with all its texts changed. -/
def map (f : α → β) : Json α → Json β
  | .null => .null
  | .bool value => .bool value
  | .number value => .number value
  | .string text => .string (f text)
  | .array items => .array (mapItems f items)
  | .object members => .object (mapMembers f members)

def mapItems (f : α → β) : List (Json α) → List (Json β)
  | [] => []
  | item :: more => item.map f :: mapItems f more

def mapMembers (f : α → β) : List (α × Json α) → List (β × Json β)
  | [] => []
  | (key, value) :: more => (f key, value.map f) :: mapMembers f more

end

mutual

/-- To map the strings of a value is to map those of its tokens. -/
theorem tokens_map (f : α → β) : (value : Json α) →
    (value.map f).tokens = value.tokens.map (Token.map f)
  | .null => rfl
  | .bool _ => rfl
  | .number _ => rfl
  | .string _ => rfl
  | .array items => by simp [map, tokens, itemTokens_map f items, Token.map]
  | .object members => by simp [map, tokens, memberTokens_map f members, Token.map]

theorem itemTokens_map (f : α → β) : (items : List (Json α)) →
    itemTokens (mapItems f items) = (itemTokens items).map (Token.map f)
  | [] => rfl
  | [item] => tokens_map f item
  | item :: next :: more => by
      have hMore := itemTokens_map f (next :: more)
      simp only [mapItems] at hMore
      simp [mapItems, itemTokens, tokens_map f item, hMore, Token.map]

theorem memberTokens_map (f : α → β) : (members : List (α × Json α)) →
    memberTokens (mapMembers f members) = (memberTokens members).map (Token.map f)
  | [] => rfl
  | [(key, value)] => by simp [mapMembers, memberTokens, tokens_map f value, Token.map]
  | (key, value) :: next :: more => by
      have hMore := memberTokens_map f (next :: more)
      simp only [mapMembers] at hMore
      simp [mapMembers, memberTokens, tokens_map f value, hMore, Token.map]

end

/-! ## Literals -/

/-- The byte of a lower-case hexadecimal digit. -/
def hexByte (n : Nat) : UInt8 :=
  if n < 10 then UInt8.ofNat (0x30 + n) else UInt8.ofNat (0x57 + n)

/-- An escape by a code, as it is written for control characters. -/
theorem spellsChar_code {c : Char} (h : c < ' ') :
    SpellsChar c (utf8 ('\\' :: 'u' :: fourHexDigits c.toNat)) := by
  have hCode : c.toNat < 32 := h
  have hBytes : ∀ n < 32, utf8 ('\\' :: 'u' :: fourHexDigits n) =
      [0x5C, 0x75, 0x30, 0x30, hexByte (n / 16), hexByte (n % 16)] := by
    decide
  have hValue : ∀ n < 16, hexByteValue? (hexByte n) = some n := by decide
  have hUnit : SpellsUnit (((0 * 16 + 0) * 16 + c.toNat / 16) * 16 + c.toNat % 16)
      [0x30, 0x30, hexByte (c.toNat / 16), hexByte (c.toNat % 16)] :=
    .digits (hValue 0 (by omega)) (hValue 0 (by omega)) (hValue _ (by omega)) (hValue _ (by omega))
  have hSame : ((0 * 16 + 0) * 16 + c.toNat / 16) * 16 + c.toNat % 16 = c.toNat := by omega
  rw [hSame] at hUnit
  rw [hBytes _ hCode]
  exact .code hUnit

/-- A character is spelled by its escape, or by itself if it needs none. -/
theorem spellsChar_escapeChar (c : Char) : SpellsChar c (utf8 (escapeChar c)) := by
  have hShort (letter c : Char) (h : (letter, c) ∈ shortEscapes) :
      SpellsChar c (utf8 ['\\', letter]) := .short h
  unfold escapeChar
  split_ifs with h₁ h₂ h₃ h₄ h₅ h₆ h₇ hControl
  · exact h₁ ▸ hShort '"' '"' (by decide)
  · exact h₂ ▸ hShort '\\' '\\' (by decide)
  · exact h₃ ▸ hShort 'b' '\x08' (by decide)
  · exact h₄ ▸ hShort 'f' '\x0c' (by decide)
  · exact h₅ ▸ hShort 'n' '\n' (by decide)
  · exact h₆ ▸ hShort 'r' '\r' (by decide)
  · exact h₇ ▸ hShort 't' '\t' (by decide)
  · exact spellsChar_code hControl
  · exact .plain hControl h₁ h₂

/-- A text is spelled by its escaped characters. -/
theorem spellsText_escaped (text : List Char) :
    SpellsText text (utf8 (text.flatMap escapeChar)) := by
  induction text with
  | nil => exact .nil
  | cons c text ih =>
      rw [List.flatMap_cons, utf8_append]
      exact .cons (spellsChar_escapeChar c) ih

/-- An exponent is written as an integer behind its mark. -/
theorem spellsExponent_literal (power : Int) :
    SpellsExponent (some power) (0x65 :: utf8 (integerLiteral power)) := by
  have hDigits := isDigits_digitBytes power.natAbs
  have hValue := digitBytesValue_digitBytes power.natAbs
  rw [utf8_integerLiteral]
  split
  · next hNegative =>
    have hSame : power = -(digitBytesValue (digitBytes power.natAbs) : Int) := by omega
    nth_rewrite 1 [hSame]
    exact .minus (.inl rfl) hDigits
  · next hNegative =>
    have hSame : power = digitBytesValue (digitBytes power.natAbs) := by omega
    nth_rewrite 1 [hSame]
    exact .plain (.inl rfl) hDigits

/-- A real number is written as its digits and an exponent, without a point. -/
theorem spellsNumber_literal (n : Numeral) : SpellsNumber n (utf8 (numberLiteral n)) := by
  cases n with
  | integer n => exact .integer n
  | real negative digits power =>
      have hReal := SpellsNumber.real negative digits .absent (spellsExponent_literal power)
        (.inr (by simp))
      have hSign : utf8 (if negative then ['-'] else []) = signBytes negative := by
        cases negative <;> rfl
      have hPower : utf8 ('e' :: integerLiteral power) = 0x65 :: utf8 (integerLiteral power) := rfl
      rw [numberLiteral, utf8_append, utf8_append, hSign, hPower, List.append_assoc, ← digitBytes]
      simpa [digitBytesValue_digitBytes] using hReal

/-- Every token is spelled by what is written for it. -/
theorem Token.spelled_literal (token : Token String) :
    (token.map some).Spelled (utf8 token.literal) := by
  cases token with
  | number n => exact .number (spellsNumber_literal n)
  | string text =>
      have hQuoted : utf8 (Token.string text).literal =
          0x22 :: (utf8 (text.toList.flatMap escapeChar) ++ [0x22]) := by
        rw [Token.literal, stringLiteral, utf8_append]
        rfl
      rw [hQuoted]
      exact .text (spellsText_escaped _)
  | bool value =>
      cases value
      · exact .no
      · exact .yes
  | openBracket => exact .openBracket
  | closeBracket => exact .closeBracket
  | openBrace => exact .openBrace
  | closeBrace => exact .closeBrace
  | comma => exact .comma
  | colon => exact .colon
  | null => exact .null

/-- Tokens are spelled by what is written for them, one after the other. -/
theorem spells_literals (tokens : List (Token String)) :
    Spells (tokens.map (.map some)) (utf8 (tokens.flatMap Token.literal)) := by
  induction tokens with
  | nil => exact .blanks (by simp)
  | cons token tokens ih =>
      rw [List.flatMap_cons, utf8_append]
      exact .token (List.forall_mem_nil _) token.spelled_literal ih

/-! ## Texts -/

/-- What is rendered is a text of the value. -/
theorem isTextOf_render (value : Json String) :
    IsTextOf (value.map some) (Bytes.ofText value.render) := by
  have hBytes : Bytes.ofText value.render = utf8 (value.tokens.flatMap Token.literal) :=
    Bytes.ofText_ofList _
  rw [IsTextOf, hBytes, tokens_map]
  exact spells_literals value.tokens

/-- What is written for a value is read as that value. -/
theorem parse?_render (value : Json String) :
    parse? (Bytes.ofText value.render) = some (value.map some) :=
  parse?_eq_some_iff.mpr (isTextOf_render value)

end Gatehouse.Json
