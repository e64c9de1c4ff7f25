import Mathlib.Data.List.Chain
import Gatehouse.Json.Parser
import Gatehouse.Proofs.Characters
import Gatehouse.Proofs.Numerals

/-! The tokens of a text are those that are spelled in it, as the grammar has them. -/
namespace Gatehouse.Json

variable {α : Type}

/-! ## Numbers apart -/

def Token.isNumber : Token α → Bool
  | .number _ => true
  | _ => false

/-- No two numbers stand side by side, where they would be taken for one. -/
def Separated (tokens : List (Token α)) : Prop :=
  tokens.IsChain fun first second => ¬ (first.isNumber = true ∧ second.isNumber = true)

/-- A token that is no number separates what is before it from what follows. -/
theorem Separated.append {first rest : List (Token α)} {token : Token α}
    (hToken : token.isNumber = false) (hFirst : Separated first) (hRest : Separated rest) :
    Separated (first ++ token :: rest) := by
  refine List.isChain_append.mpr ⟨hFirst, List.isChain_cons.mpr ⟨?_, hRest⟩, ?_⟩
  · rintro next - ⟨hNumber, -⟩
    simp [hToken] at hNumber
  · rintro last - next hNext ⟨-, hNumber⟩
    cases hNext
    simp [hToken] at hNumber

theorem Separated.nil : Separated ([] : List (Token α)) := List.isChain_nil

theorem Separated.cons {rest : List (Token α)} {token : Token α}
    (hToken : token.isNumber = false) (hRest : Separated rest) : Separated (token :: rest) :=
  Separated.append hToken .nil hRest

theorem Separated.singleton (token : Token α) : Separated [token] := List.isChain_singleton _

mutual

/-- In the tokens of a value no two numbers stand next to each other. -/
theorem separated_tokens : (value : Json α) → Separated value.tokens
  | .null => .singleton _
  | .bool _ => .singleton _
  | .number _ => .singleton _
  | .string _ => .singleton _
  | .array items => .append rfl (.cons rfl (separated_itemTokens items)) .nil
  | .object members => .append rfl (.cons rfl (separated_memberTokens members)) .nil

theorem separated_itemTokens : (items : List (Json α)) → Separated (itemTokens items)
  | [] => .nil
  | [item] => separated_tokens item
  | item :: next :: more =>
      .append rfl (separated_tokens item) (separated_itemTokens (next :: more))

theorem separated_memberTokens : (members : List (α × Json α)) →
    Separated (memberTokens members)
  | [] => .nil
  | [(_, value)] => .cons rfl (.cons rfl (separated_tokens value))
  | (_, value) :: next :: more =>
      .append rfl (.cons rfl (.cons rfl (separated_tokens value)))
        (separated_memberTokens (next :: more))

end

/-! ## Tokens in a text -/

/-- What a number begins with is none of the bytes that no number begins with. -/
theorem ne_of_beginsNumber {b c : UInt8} (h : b = 0x2D ∨ isDigitByte b = true)
    {others : List UInt8}
    (hOthers : (others.all fun other => other != 0x2D && !isDigitByte other) = true)
    (hc : c ∈ others) : b ≠ c := by
  rintro rfl
  have hOther := List.all_eq_true.mp hOthers b hc
  rcases h with rfl | h
  · simp at hOther
  · simp [h] at hOther

/-- What begins like a number can be nothing else. -/
theorem readToken?_number {b : UInt8} (h : b = 0x2D ∨ isDigitByte b = true) (more : Bytes) :
    readToken? (b :: more) = (readNumber? (b :: more)).map fun (n, rest) => (.number n, rest) := by
  have hNot : ∀ c ∈ [0x5B, 0x5D, 0x7B, 0x7D, 0x2C, 0x3A, 0x22, 0x6E, 0x74, 0x66], b ≠ c :=
    fun c hc => ne_of_beginsNumber h (by decide) hc
  unfold readToken?
  split
  all_goals first
    | rfl
    | next hSame => exact (hNot _ (by decide) (List.cons.inj hSame).1).elim

/-- A string that is closed is a token, whatever it denotes. -/
theorem readToken?_string {pieces : List Piece} {body : Bytes} (h : SpellsPieces pieces body)
    (rest : Bytes) :
    readToken? (0x22 :: (body ++ [0x22]) ++ rest) = some (.string (textOfPieces? pieces), rest) := by
  rw [List.cons_append, List.append_assoc, readToken?, List.singleton_append,
    readString?_of_spells h]
  rfl

variable {token : Token (Option String)} {tokens : List (Token (Option String))}
  {literal bytes rest : Bytes}

/-- A token begins with a byte that is no blank. -/
theorem Token.Spelled.head (h : token.Spelled literal) :
    ∃ b more, literal = b :: more ∧ isSpaceByte b = false := by
  cases h with
  | number hNumber =>
      obtain ⟨b, more, hLiteral, hBegins⟩ := hNumber.head
      refine ⟨b, more, hLiteral, ?_⟩
      have hOther (c : UInt8) (hc : c ∈ [0x20, 0x09, 0x0A, 0x0D]) : b ≠ c :=
        ne_of_beginsNumber hBegins (by decide) hc
      simp [isSpaceByte, hOther]
  | _ => exact ⟨_, _, rfl, by decide⟩

/-- What a token other than a number begins with does not go on with a number. -/
theorem Token.Spelled.endsNumber (h : token.Spelled literal) (hOther : token.isNumber = false)
    (rest : Bytes) : EndsNumber (literal ++ rest) := by
  cases h with
  | number _ => cases hOther
  | _ => exact ⟨by decide, by decide, by decide, by decide⟩

/-- What spells a token is read as that token. -/
theorem readToken?_of_spelled (h : token.Spelled literal)
    (hRest : token.isNumber = true → EndsNumber rest) :
    readToken? (literal ++ rest) = some (token, rest) := by
  cases h with
  | number hNumber =>
      obtain ⟨b, more, hLiteral, hBegins⟩ := hNumber.head
      have hRead := readNumber?_of_spells hNumber (hRest rfl)
      rw [hLiteral, List.cons_append] at hRead ⊢
      rw [readToken?_number hBegins, hRead]
      rfl
  | text hText =>
      obtain ⟨pieces, hPieces, -⟩ := exists_pieces_of_text hText
      rw [readToken?_string hPieces, (textOfPieces?_eq_some_iff hPieces).mpr hText]
  | @garbled pieces body hPieces hNone =>
      have hGarbled : textOfPieces? pieces = none :=
        Option.eq_none_iff_forall_ne_some.mpr fun text hText =>
          hNone _ ((textOfPieces?_eq_some_iff hPieces).mp hText)
      rw [readToken?_string hPieces, hGarbled]
  | _ => rfl

/-- Whatever is read as a token spells it. -/
theorem exists_spelled_of_readToken? (h : readToken? bytes = some (token, rest)) :
    ∃ literal, bytes = literal ++ rest ∧ token.Spelled literal := by
  unfold readToken? at h
  split at h
  case h_7 after =>
    obtain ⟨⟨pieces, others⟩, hRead, hSame⟩ := Option.map_eq_some_iff.mp h
    cases hSame
    obtain ⟨found, body, hFound, rfl, hBody⟩ := exists_spells_of_readString? hRead
    rw [List.reverse_nil, List.nil_append] at hFound
    subst hFound
    refine ⟨0x22 :: (body ++ [0x22]), by simp, ?_⟩
    cases hText : textOfPieces? pieces with
    | some text => exact .text ((textOfPieces?_eq_some_iff hBody).mp hText)
    | none =>
        refine .garbled hBody fun text hSpells => ?_
        rw [← String.toList_ofList (l := text)] at hSpells
        rw [(textOfPieces?_eq_some_iff hBody).mpr hSpells] at hText
        cases hText
  case h_11 =>
    obtain ⟨⟨n, others⟩, hRead, hSame⟩ := Option.map_eq_some_iff.mp h
    cases hSame
    obtain ⟨literal, rfl, hNumber⟩ := exists_spells_of_readNumber? hRead
    exact ⟨literal, rfl, .number hNumber⟩
  all_goals cases h
  case h_1 => exact ⟨_, rfl, .openBracket⟩
  case h_2 => exact ⟨_, rfl, .closeBracket⟩
  case h_3 => exact ⟨_, rfl, .openBrace⟩
  case h_4 => exact ⟨_, rfl, .closeBrace⟩
  case h_5 => exact ⟨_, rfl, .comma⟩
  case h_6 => exact ⟨_, rfl, .colon⟩
  case h_8 => exact ⟨_, rfl, .null⟩
  case h_9 => exact ⟨_, rfl, .yes⟩
  case h_10 => exact ⟨_, rfl, .no⟩

/-! ## Tokens of a text -/

/-- A number ends at a blank. -/
theorem endsNumber_of_blank {b : UInt8} (h : isSpaceByte b = true) (rest : Bytes) :
    EndsNumber (b :: rest) := by
  simp only [isSpaceByte, Bool.or_eq_true, decide_eq_true_eq] at h
  obtain ((rfl | rfl) | rfl) | rfl := h <;> exact ⟨by decide, by decide, by decide, by decide⟩

/-- A number ends where the tokens behind it begin, unless these begin with another number. -/
theorem Spells.endsNumber (h : Spells tokens rest)
    (hNext : ∀ next ∈ tokens.head?, next.isNumber = false) : EndsNumber rest := by
  cases h with
  | blanks hBlanks =>
      cases rest with
      | nil => exact trivial
      | cons b rest => exact endsNumber_of_blank (hBlanks b (List.mem_cons_self ..)) rest
  | @token token tokens blanks literal rest hBlanks hToken _ =>
      cases blanks with
      | nil => exact hToken.endsNumber (hNext token rfl) rest
      | cons b blanks => exact endsNumber_of_blank (hBlanks b (List.mem_cons_self ..)) _

/-- Blanks in front do not matter. -/
theorem Spells.cons_blank {b : UInt8} (hBlank : isSpaceByte b = true) (h : Spells tokens rest) :
    Spells tokens (b :: rest) := by
  have hMore {blanks : Bytes} (hBlanks : ∀ b ∈ blanks, isSpaceByte b = true) :
      ∀ c ∈ b :: blanks, isSpaceByte c = true := by
    simpa [hBlank] using hBlanks
  cases h with
  | blanks hBlanks => exact .blanks (hMore hBlanks)
  | token hBlanks hToken hRest => exact .token (hMore hBlanks) hToken hRest

/-- Blanks are passed over, at the price of one unit of fuel each. -/
theorem readTokens?_blanks {blanks : Bytes} (hBlanks : ∀ b ∈ blanks, isSpaceByte b = true)
    (fuel : Nat) (rest : Bytes) (read : List (Token (Option String))) :
    readTokens? (blanks.length + fuel) (blanks ++ rest) read = readTokens? fuel rest read := by
  induction blanks with
  | nil => simp
  | cons b blanks ih =>
      rw [List.length_cons, Nat.succ_add, List.cons_append, readTokens?,
        if_pos (hBlanks b (List.mem_cons_self ..)),
        ih fun c hc => hBlanks c (List.mem_cons_of_mem _ hc)]

/-- The tokens that are spelled are read, with fuel for every byte. -/
theorem readTokens?_of_spells (h : Spells tokens bytes) :
    ∀ fuel read, Separated tokens → bytes.length ≤ fuel →
      readTokens? fuel bytes read = some (read.reverse ++ tokens) := by
  induction h with
  | @blanks blanks hBlanks =>
      intro fuel read _ hFuel
      obtain ⟨left, rfl⟩ := Nat.exists_eq_add_of_le hFuel
      have hPassed := readTokens?_blanks hBlanks left [] read
      rw [List.append_nil] at hPassed
      rw [hPassed, List.append_nil, readTokens?]
  | @token token tokens blanks literal rest hBlanks hToken hSpells ih =>
      intro fuel read hSeparated hFuel
      obtain ⟨hNext, hRest⟩ := List.isChain_cons.mp hSeparated
      have hEnds : token.isNumber = true → EndsNumber rest := fun hNumber =>
        hSpells.endsNumber fun next hHead => by simpa [hNumber] using hNext next hHead
      have hRead := readToken?_of_spelled hToken hEnds
      obtain ⟨b, more, rfl, hSpace⟩ := hToken.head
      obtain ⟨left, rfl⟩ := Nat.exists_eq_add_of_le hFuel
      -- One unit of fuel for each blank and one for the token; enough is left for the rest.
      have hSame : (blanks ++ (b :: more ++ rest)).length + left =
          blanks.length + ((more ++ rest).length + left + 1) := by
        simp only [List.length_append, List.length_cons]
        omega
      rw [hSame, readTokens?_blanks hBlanks]
      rw [List.cons_append] at hRead ⊢
      rw [readTokens?, if_neg (by simp [hSpace]), hRead]
      dsimp only
      rw [ih _ _ hRest (by rw [List.length_append]; omega), List.reverse_cons, List.append_assoc,
        List.singleton_append]

/-- Whatever tokens are read, the bytes spell them. -/
theorem exists_spells_of_readTokens? {fuel : Nat} {read found : List (Token (Option String))}
    (h : readTokens? fuel bytes read = some found) :
    ∃ more, found = read.reverse ++ more ∧ Spells more bytes := by
  fun_induction readTokens? fuel bytes read with
  | case1 read =>
      cases h
      exact ⟨[], by simp, .blanks (by simp)⟩
  | case2 => cases h
  | case3 fuel b rest read hBlank ih =>
      obtain ⟨more, hFound, hSpells⟩ := ih h
      exact ⟨more, hFound, hSpells.cons_blank hBlank⟩
  | case4 => cases h
  | case5 fuel b rest read _ token after hRead ih =>
      obtain ⟨more, hFound, hSpells⟩ := ih h
      obtain ⟨literal, hBytes, hToken⟩ := exists_spelled_of_readToken? hRead
      refine ⟨token :: more, by simpa using hFound, ?_⟩
      rw [hBytes]
      exact .token (List.forall_mem_nil _) hToken hSpells

/-- What is read from bytes they spell. -/
theorem spells_of_lex? (h : lex? bytes = some tokens) : Spells tokens bytes := by
  obtain ⟨more, rfl, hSpells⟩ := exists_spells_of_readTokens? h
  exact hSpells

/-- A text has just the tokens that are spelled in it. -/
theorem lex?_of_spells (h : Spells tokens bytes) (hSeparated : Separated tokens) :
    lex? bytes = some tokens :=
  readTokens?_of_spells h _ [] hSeparated (Nat.le_refl _)

end Gatehouse.Json
