import Gatehouse.Proofs.Bearing

/-! What an authorization header can hold. It bears a token if it has two words, the scheme and
the token; it bears none if it has no words, and whatever else it holds is malformed. -/
namespace Gatehouse

/-! ## Words -/

namespace Text

/-- A text is blank, or it begins with a word behind blanks. -/
theorem words_cases (text : List Char) :
    (∀ c ∈ text, isBlank c = true) ∧ words text = [] ∨
      ∃ lead word rest, text = lead ++ (word ++ rest) ∧ (∀ c ∈ lead, isBlank c = true) ∧
        (word ≠ [] ∧ ∀ c ∈ word, isBlank c = false) ∧ (∀ c ∈ rest.head?, isBlank c = true) ∧
        words text = word :: words rest := by
  have hLead : ∀ c ∈ text.takeWhile isBlank, isBlank c = true := fun c hc =>
    List.mem_takeWhile_imp hc
  have hText := List.takeWhile_append_dropWhile (p := isBlank) (l := text)
  have hBody : ∀ c ∈ (text.dropWhile isBlank).head?, isBlank c = false := fun c hc => by
    have hNot := List.head?_dropWhile_not isBlank text
    rw [Option.mem_def.mp hc] at hNot
    simpa using hNot
  generalize text.takeWhile isBlank = lead at hLead hText
  generalize text.dropWhile isBlank = body at hBody hText
  subst hText
  cases body with
  | nil =>
      left
      refine ⟨by simpa using hLead, ?_⟩
      rw [words_blank_append hLead]
      rfl
  | cons c body =>
      right
      have hWord : ∀ d ∈ (c :: body).takeWhile (fun d => !isBlank d), isBlank d = false :=
        fun d hd => by simpa using List.mem_takeWhile_imp hd
      have hSome : (c :: body).takeWhile (fun d => !isBlank d) ≠ [] := by
        simp [hBody c rfl]
      have hRest : ∀ d ∈ ((c :: body).dropWhile fun d => !isBlank d).head?, isBlank d = true :=
        fun d hd => by
          have hNot := List.head?_dropWhile_not (fun d => !isBlank d) (c :: body)
          rw [Option.mem_def.mp hd] at hNot
          simpa using hNot
      have hBodyText := List.takeWhile_append_dropWhile (p := fun d => !isBlank d) (l := c :: body)
      refine ⟨lead, _, _, by rw [hBodyText], hLead, ⟨hSome, hWord⟩, hRest, ?_⟩
      rw [words_blank_append hLead, ← words_first hSome hWord hRest, hBodyText]

/-- A text of blanks has no words, and no other text has none. -/
theorem words_eq_nil_iff {text : List Char} :
    words text = [] ↔ ∀ c ∈ text, isBlank c = true := by
  constructor
  · intro h
    rcases words_cases text with ⟨hBlank, -⟩ | ⟨lead, word, rest, -, -, -, -, hWords⟩
    · exact hBlank
    · rw [h] at hWords
      cases hWords
  · intro h
    have hAll := words_blank_append h []
    rw [List.append_nil] at hAll
    exact hAll

/-- Two words, however they are spaced, with something blank between them. -/
theorem words_eq_pair_iff {text first second : List Char} :
    words text = [first, second] ↔ ∃ lead gap trail,
      text = lead ++ (first ++ (gap ++ (second ++ trail))) ∧ (∀ c ∈ lead, isBlank c = true) ∧
      (∀ c ∈ gap, isBlank c = true) ∧ (∀ c ∈ trail, isBlank c = true) ∧ gap ≠ [] ∧
      (first ≠ [] ∧ ∀ c ∈ first, isBlank c = false) ∧
      (second ≠ [] ∧ ∀ c ∈ second, isBlank c = false) := by
  constructor
  · intro h
    rcases words_cases text with ⟨-, hWords⟩ | ⟨lead, word, rest, rfl, hLead, hFirst, hRest, hWords⟩
    · rw [h] at hWords
      cases hWords
    · obtain ⟨rfl, hSecond⟩ := List.cons.inj (h.symm.trans hWords)
      rcases words_cases rest with
        ⟨-, hNone⟩ | ⟨gap, other, trail, rfl, hGap, hOther, -, hLast⟩
      · rw [← hSecond] at hNone
        cases hNone
      · obtain ⟨rfl, hTrail⟩ := List.cons.inj (hSecond.trans hLast)
        refine ⟨lead, gap, trail, rfl, hLead, hGap, words_eq_nil_iff.mp hTrail.symm, ?_, hFirst,
          hOther⟩
        -- Without a gap the rest would begin with a character of the second word.
        rintro rfl
        obtain ⟨c, more, rfl⟩ := List.exists_cons_of_ne_nil hOther.1
        have hBlank := hRest c rfl
        rw [hOther.2 c (List.mem_cons_self ..)] at hBlank
        cases hBlank
  · rintro ⟨lead, gap, trail, rfl, hLead, hGap, hTrail, hApart, hFirst, hSecond⟩
    exact words_pair hLead hGap hTrail hApart hFirst hSecond

/-- The only blanks that may stand in a header are the space and the tab. -/
theorem IsPlain.isBlank_iff {c : Char} (h : IsPlain c) : isBlank c = true ↔ c = ' ' ∨ c = '\t' :=
  ascii_forall (P := fun c => IsPlain c → (isBlank c = true ↔ c = ' ' ∨ c = '\t')) (by decide) h.lt h

end Text

/-! ## Headers -/

namespace Credential

/-- What an authorization header is taken for. -/
def ofValue (value : Bytes) : Except CredentialError (List Char × CredentialSource) :=
  match Text.readable? value with
  | none => .error .malformed
  | some text => (parseBearer text).map fun token => (token, .header)

/-- Where there is an authorization header, nothing but its first value counts. -/
theorem find_of_value {headers : Http.Headers} {value : Bytes}
    (h : headers.first? "authorization" = some value) (cookieFallback : Bool) :
    find headers cookieFallback = ofValue value := by
  rw [find, h]
  rfl

/-- The value has the scheme and the token in it, with blanks between them and perhaps around them.
The token is not empty, and there are no blanks in it. -/
structure IsBearer (token : List Char) (value : Bytes) : Prop where
  ne_nil : token ≠ []
  solid : ∀ c ∈ token, Text.IsPlain c ∧ c ≠ ' ' ∧ c ≠ '\t'
  written : ∃ lead scheme gap trail,
    value = Bytes.ofText (String.ofList (lead ++ (scheme ++ (gap ++ (token ++ trail))))) ∧
    (∀ c ∈ lead ++ gap ++ trail, c = ' ' ∨ c = '\t') ∧ gap ≠ [] ∧
    Text.lower scheme = "bearer".toList

/-- The token is the second of two words, after the scheme in any case of its letters. -/
theorem parseBearer_eq_ok_iff {text token : List Char} :
    parseBearer text = .ok token ↔
      ∃ scheme, Text.words text = [scheme, token] ∧ Text.lower scheme = "bearer".toList := by
  constructor
  · intro h
    unfold parseBearer at h
    split at h
    · cases h
    · next scheme found hWords =>
      split at h
      · next hScheme =>
        cases h
        exact ⟨scheme, hWords, hScheme⟩
      · cases h
    · cases h
  · rintro ⟨scheme, hWords, hScheme⟩
    exact parseBearer_words hWords hScheme

/-- A text without words is as good as none. -/
theorem parseBearer_eq_missing_iff {text : List Char} :
    parseBearer text = .error .missing ↔ Text.words text = [] := by
  unfold parseBearer
  split
  · next hWords => simp [hWords]
  · next hWords =>
    rw [hWords]
    split_ifs <;> simp
  · next hNot _ => simpa using hNot

theorem ofValue_of_readable? {value : Bytes} {text : List Char}
    (h : Text.readable? value = some text) :
    ofValue value = (parseBearer text).map fun token => (token, .header) := by
  rw [ofValue, h]

/-- A value that is no text is malformed, so with any other outcome there is a text. -/
theorem exists_text_of_ofValue {value : Bytes}
    {result : Except CredentialError (List Char × CredentialSource)} (h : ofValue value = result)
    (hForm : result ≠ .error .malformed) : ∃ text, Text.readable? value = some text := by
  cases hRead : Text.readable? value with
  | none =>
      rw [ofValue, hRead] at h
      exact (hForm h.symm).elim
  | some text => exact ⟨text, rfl⟩

/-- What a single value gives a token, and which. -/
theorem ofValue_eq_ok_iff {value : Bytes} {token : List Char} {source : CredentialSource} :
    ofValue value = .ok (token, source) ↔ source = .header ∧ IsBearer token value := by
  constructor
  · intro h
    obtain ⟨text, hRead⟩ := exists_text_of_ofValue h (by simp)
    rw [ofValue_of_readable? hRead] at h
    cases hParsed : parseBearer text with
    | error error =>
        rw [hParsed] at h
        cases h
    | ok found =>
        rw [hParsed] at h
        cases h
        obtain ⟨hPlain, rfl⟩ := Text.readable?_eq_some_iff.mp hRead
        obtain ⟨scheme, hWords, hScheme⟩ := parseBearer_eq_ok_iff.mp hParsed
        obtain ⟨lead, gap, trail, rfl, hLead, hGap, hTrail, hApart, -, hToken⟩ :=
          Text.words_eq_pair_iff.mp hWords
        have hBlank {c : Char} (hc : c ∈ lead ++ (scheme ++ (gap ++ (token ++ trail)))) :=
          (hPlain c hc).isBlank_iff
        refine ⟨rfl, hToken.1, fun c hc => ?_, lead, scheme, gap, trail, rfl, fun c hc => ?_,
          hApart, hScheme⟩
        · have hIn : c ∈ lead ++ (scheme ++ (gap ++ (token ++ trail))) := by simp [hc]
          have hNot := (hBlank hIn).not.mp (by simp [hToken.2 c hc])
          exact ⟨hPlain c hIn, not_or.mp hNot⟩
        · simp only [List.mem_append] at hc
          rcases hc with (hc | hc) | hc
          · exact (hBlank (by simp [hc])).mp (hLead c hc)
          · exact (hBlank (by simp [hc])).mp (hGap c hc)
          · exact (hBlank (by simp [hc])).mp (hTrail c hc)
  · rintro ⟨rfl, hSome, hSolid, lead, scheme, gap, trail, rfl, hBlanks, hGap, hScheme⟩
    obtain ⟨hPlain, hParsed⟩ := parseBearer_written hBlanks hGap hScheme hSome fun c hc => by
      obtain ⟨hPlain, hNot⟩ := hSolid c hc
      exact ⟨hPlain, by simpa using hPlain.isBlank_iff.not.mpr (not_or.mpr hNot)⟩
    rw [ofValue_of_readable? (Text.readable?_ofText hPlain), hParsed]
    rfl

/-- A value is taken for none if it consists of blanks. -/
theorem ofValue_eq_missing_iff {value : Bytes} :
    ofValue value = .error .missing ↔ ∀ b ∈ value, b = 0x20 ∨ b = 0x09 := by
  constructor
  · intro h
    obtain ⟨text, hRead⟩ := exists_text_of_ofValue h (by simp)
    rw [ofValue_of_readable? hRead] at h
    have hMissing : parseBearer text = .error .missing := by
      cases hParsed : parseBearer text with
      | error error =>
          rw [hParsed] at h
          cases h
          rfl
      | ok found =>
          rw [hParsed] at h
          cases h
    obtain ⟨hPlain, rfl⟩ := Text.readable?_eq_some_iff.mp hRead
    have hBlank := Text.words_eq_nil_iff.mp (parseBearer_eq_missing_iff.mp hMissing)
    intro b hb
    rw [Bytes.ofText_ofList_of_ascii fun c hc => (hPlain c hc).lt] at hb
    obtain ⟨c, hc, rfl⟩ := List.mem_map.mp hb
    rcases (hPlain c hc).isBlank_iff.mp (hBlank c hc) with rfl | rfl
    · exact .inl rfl
    · exact .inr rfl
  · intro h
    have hRead : Text.readable? value = some (value.map fun b => Char.ofNat b.toNat) := by
      refine if_pos (List.all_eq_true.mpr fun b hb => ?_)
      rcases h b hb with rfl | rfl <;> decide
    have hBlank : ∀ c ∈ value.map fun b => Char.ofNat b.toNat, Text.isBlank c = true := by
      intro c hc
      obtain ⟨b, hb, rfl⟩ := List.mem_map.mp hc
      rcases h b hb with rfl | rfl <;> decide
    have hWords := Text.words_eq_nil_iff.mpr hBlank
    rw [ofValue_of_readable? hRead, parseBearer_eq_missing_iff.mpr hWords]
    rfl

/-- Whatever is neither a token nor blank is malformed. -/
theorem ofValue_eq_malformed_iff {value : Bytes} :
    ofValue value = .error .malformed ↔
      (∀ token, ¬ IsBearer token value) ∧ ¬ ∀ b ∈ value, b = 0x20 ∨ b = 0x09 := by
  rw [← ofValue_eq_missing_iff]
  constructor
  · intro h
    refine ⟨fun token hToken => ?_, by simp [h]⟩
    have hOk := ofValue_eq_ok_iff.mpr ⟨rfl, hToken⟩
    rw [h] at hOk
    cases hOk
  · rintro ⟨hToken, hMissing⟩
    match h : ofValue value with
    | .error .malformed => rfl
    | .error .missing => exact (hMissing h).elim
    | .ok (token, source) => exact (hToken token (ofValue_eq_ok_iff.mp h).2).elim

/-- No token is found that is empty, wherever it is looked for. -/
theorem ne_nil_of_find {headers : Http.Headers} {cookieFallback : Bool} {token : List Char}
    {source : CredentialSource} (h : find headers cookieFallback = .ok (token, source)) :
    token ≠ [] := by
  cases hValue : headers.first? "authorization" with
  | some value =>
      rw [find_of_value hValue] at h
      exact (ofValue_eq_ok_iff.mp h).2.ne_nil
  | none =>
      rw [find, hValue] at h
      dsimp only at h
      split at h
      · unfold cookieSource at h
        split at h
        · next found hFound =>
          cases h
          simp only [cookieToken?, Option.bind_eq_bind, Option.bind_eq_some_iff] at hFound
          obtain ⟨_, -, hFound⟩ := hFound
          split at hFound
          · cases hFound
          · next hSome =>
            cases hFound
            simpa using hSome
        · cases h
      · cases h

/-- Where a request has an authorization header, its first value alone decides, and no cookie does.
It is a token if it is the scheme and that token, it is missing if it holds nothing but spaces and
tabs, and it is malformed otherwise. Whether from a header or a cookie, no token is empty. -/
theorem authorization_decides (headers : Http.Headers) (cookieFallback : Bool) :
    (∀ value, headers.first? "authorization" = some value →
      (∀ token source, find headers cookieFallback = .ok (token, source) ↔
        source = .header ∧ IsBearer token value) ∧
      (find headers cookieFallback = .error .missing ↔ ∀ b ∈ value, b = 0x20 ∨ b = 0x09) ∧
      (find headers cookieFallback = .error .malformed ↔
        (∀ token, ¬ IsBearer token value) ∧ ¬ ∀ b ∈ value, b = 0x20 ∨ b = 0x09) ∧
      ∀ others otherFallback, Http.Headers.first? others "authorization" = some value →
        find others otherFallback = find headers cookieFallback) ∧
    ∀ token source, find headers cookieFallback = .ok (token, source) → token ≠ [] := by
  refine ⟨fun value hValue => ?_, fun token source => ne_nil_of_find⟩
  rw [find_of_value hValue]
  refine ⟨fun token source => ofValue_eq_ok_iff, ofValue_eq_missing_iff, ofValue_eq_malformed_iff,
    fun others otherFallback hOther => find_of_value hOther otherFallback⟩

/-- The scheme in other letters, tabs for blanks, and a cookie that is not looked at. -/
example :
    find ⟨[("cookie", Bytes.ofText "Authorization=b"), ("authorization",
      Bytes.ofText "\tbEArEr \t a.b-c "), ("authorization", Bytes.ofText "Bearer d")]⟩ true =
      .ok ("a.b-c".toList, .header) := by
  rfl

end Credential

end Gatehouse
