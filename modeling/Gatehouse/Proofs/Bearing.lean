import Mathlib.Data.List.TakeWhile
import Gatehouse.Credential
import Gatehouse.Proofs.Encoding
import Gatehouse.Proofs.Sealing

/-! How a request bears a token: behind the scheme in its authorization header, or as the value of
a cookie. Nothing in a token can be taken for a blank, a quote or a separator, so a token is found
as it was issued. -/
namespace Gatehouse

/-! ## Words and trimming -/

namespace Text

/-- Leading blanks do not matter to the words. -/
theorem words_blank_append {gap : List Char} (hGap : ∀ c ∈ gap, isBlank c = true)
    (rest : List Char) : words (gap ++ rest) = words rest := by
  induction gap with
  | nil => rfl
  | cons c gap ih =>
      have hRest := ih fun d hd => hGap d (List.mem_cons_of_mem _ hd)
      rw [← hRest]
      simp [words, List.splitOnP_cons_eq_if_modifyHead, hGap c (List.mem_cons_self ..)]

/-- A word ends at the first blank after it. -/
theorem words_word_append {word : List Char} (hWord : word ≠ [])
    (hSolid : ∀ c ∈ word, isBlank c = false) {c : Char} (hBlank : isBlank c = true)
    (rest : List Char) : words (word ++ c :: rest) = word :: words rest := by
  rw [words, List.splitOnP_append_cons_of_forall_mem hSolid c hBlank]
  simp [words, hWord]

/-- The first word of a text, before a blank or before nothing at all. -/
theorem words_first {word rest : List Char} (hWord : word ≠ [])
    (hSolid : ∀ c ∈ word, isBlank c = false) (hRest : ∀ c ∈ rest.head?, isBlank c = true) :
    words (word ++ rest) = word :: words rest := by
  cases rest with
  | nil =>
      rw [List.append_nil, words, List.splitOnP_eq_singleton hSolid]
      simp [hWord, words]
  | cons c rest =>
      have hBlank := hRest c rfl
      have hSkip : words ([c] ++ rest) = words rest :=
        words_blank_append (by simpa using hBlank) rest
      rw [words_word_append hWord hSolid hBlank, ← hSkip]
      rfl

/-- Two words with blanks between them, and any blanks around them. -/
theorem words_pair {lead first gap second trail : List Char}
    (hLead : ∀ c ∈ lead, isBlank c = true) (hGap : ∀ c ∈ gap, isBlank c = true)
    (hTrail : ∀ c ∈ trail, isBlank c = true) (hApart : gap ≠ [])
    (hFirst : first ≠ [] ∧ ∀ c ∈ first, isBlank c = false)
    (hSecond : second ≠ [] ∧ ∀ c ∈ second, isBlank c = false) :
    words (lead ++ (first ++ (gap ++ (second ++ trail)))) = [first, second] := by
  have hGapHead : ∀ c ∈ (gap ++ (second ++ trail)).head?, isBlank c = true := by
    obtain ⟨c, gap, rfl⟩ := List.exists_cons_of_ne_nil hApart
    simpa using hGap c (List.mem_cons_self ..)
  have hTrailHead : ∀ c ∈ trail.head?, isBlank c = true := fun c hc =>
    hTrail c (List.mem_of_mem_head? hc)
  have hRest := words_blank_append hTrail []
  rw [List.append_nil] at hRest
  rw [words_blank_append hLead, words_first hFirst.1 hFirst.2 hGapHead, words_blank_append hGap,
    words_first hSecond.1 hSecond.2 hTrailHead, hRest]
  rfl

private theorem dropWhile_of_head {p : Char → Bool} {text : List Char}
    (h : ∀ c ∈ text.head?, p c = false) : text.dropWhile p = text := by
  cases text with
  | nil => rfl
  | cons c rest => exact List.dropWhile_cons_of_neg (by simp [h c rfl])

/-- What is left of a text when the characters of a kind are taken off both of its ends. -/
def Strips (p : Char → Bool) (text core : List Char) : Prop :=
  ∃ lead trail, text = lead ++ core ++ trail ∧ (∀ c ∈ lead ++ trail, p c = true) ∧
    (∀ c ∈ core.head?, p c = false) ∧ ∀ c ∈ core.getLast?, p c = false

/-- Stripping as a predicate is what taking off at both ends computes. -/
theorem strips_iff {p : Char → Bool} {text core : List Char} :
    Strips p text core ↔ ((text.dropWhile p).reverse.dropWhile p).reverse = core := by
  constructor
  · rintro ⟨lead, trail, rfl, hEnds, hHead, hLast⟩
    have hLead : ∀ c ∈ lead, p c = true := fun c hc => hEnds c (List.mem_append_left _ hc)
    have hTrail : ∀ c ∈ trail, p c = true := fun c hc => hEnds c (List.mem_append_right _ hc)
    rw [List.append_assoc, List.dropWhile_append_of_pos hLead]
    cases core with
    | nil => rw [List.nil_append, List.dropWhile_eq_nil_iff.mpr hTrail]; rfl
    | cons c rest =>
        have hCore : (c :: rest ++ trail).dropWhile p = c :: rest ++ trail :=
          dropWhile_of_head fun d hd => hHead d hd
        rw [hCore, List.reverse_append,
          List.dropWhile_append_of_pos fun d hd => hTrail d (List.mem_reverse.mp hd),
          dropWhile_of_head fun d hd => hLast d (List.head?_reverse ▸ hd), List.reverse_reverse]
  · rintro rfl
    have hText := List.takeWhile_append_dropWhile (p := p) (l := text)
    have hHead := List.head?_dropWhile_not p text
    generalize text.dropWhile p = rest at hText hHead
    have hRest := List.takeWhile_append_dropWhile (p := p) (l := rest.reverse)
    have hLast := List.head?_dropWhile_not p rest.reverse
    generalize rest.reverse.dropWhile p = core at hRest hLast
    have hWhole : core.reverse ++ (rest.reverse.takeWhile p).reverse = rest := by
      rw [← List.reverse_append, hRest, List.reverse_reverse]
    refine ⟨text.takeWhile p, (rest.reverse.takeWhile p).reverse, ?_, fun c hc => ?_,
      fun c hc => ?_, fun c hc => ?_⟩
    · rw [List.append_assoc, hWhole, hText]
    · rcases List.mem_append.mp hc with hc | hc
      · exact List.mem_takeWhile_imp hc
      · exact List.mem_takeWhile_imp (List.mem_reverse.mp hc)
    · have hFirst : rest.head? = some c := by
        rw [← hWhole, List.head?_append, Option.mem_def.mp hc]
        rfl
      rw [hFirst] at hHead
      simpa using hHead
    · rw [List.getLast?_reverse] at hc
      rw [Option.mem_def.mp hc] at hLast
      simpa using hLast

theorem strips_isBlank_iff {text core : List Char} : Strips isBlank text core ↔ trim text = core :=
  strips_iff

/-- There are no blanks at the ends of a trimmed text. -/
theorem ends_of_trim (text : List Char) :
    (∀ c ∈ (trim text).head?, isBlank c = false) ∧ ∀ c ∈ (trim text).getLast?, isBlank c = false := by
  obtain ⟨-, -, -, -, hHead, hLast⟩ := strips_isBlank_iff.mpr (rfl : trim text = trim text)
  exact ⟨hHead, hLast⟩

theorem trim_eq_self {text : List Char} (hHead : ∀ c ∈ text.head?, isBlank c = false)
    (hLast : ∀ c ∈ text.getLast?, isBlank c = false) : trim text = text :=
  strips_isBlank_iff.mp ⟨[], [], by simp, by simp, hHead, hLast⟩

/-- Trimming takes off everything there is to take off. -/
theorem trim_trim (text : List Char) : trim (trim text) = trim text :=
  trim_eq_self (ends_of_trim text).1 (ends_of_trim text).2

theorem strips_char_iff {c : Char} {text core : List Char} :
    Strips (· == c) text core ↔ trimOf c text = core :=
  strips_iff

/-- Trimming takes the blanks around a text that neither begins nor ends with one. -/
theorem trim_padded {lead text trail : List Char} (hLead : ∀ c ∈ lead, isBlank c = true)
    (hTrail : ∀ c ∈ trail, isBlank c = true) (hHead : ∀ c ∈ text.head?, isBlank c = false)
    (hLast : ∀ c ∈ text.getLast?, isBlank c = false) : trim (lead ++ text ++ trail) = text :=
  strips_isBlank_iff.mp ⟨lead, trail, rfl, fun c hc => (List.mem_append.mp hc).elim (hLead c)
    (hTrail c), hHead, hLast⟩

/-- Taking a character off both ends leaves a text in which it does not occur. -/
theorem trimOf_padded {c : Char} {lead text trail : List Char} (hLead : ∀ d ∈ lead, d = c)
    (hTrail : ∀ d ∈ trail, d = c) (hText : c ∉ text) : trimOf c (lead ++ text ++ trail) = text := by
  have hOther : ∀ d ∈ text, (d == c) = false := fun d hd => by
    simpa using fun hEq : d = c => hText (hEq ▸ hd)
  refine strips_char_iff.mp ⟨lead, trail, rfl, fun d hd => ?_,
    fun d hd => hOther d (List.mem_of_mem_head? hd), fun d hd => hOther d (List.mem_of_getLast? hd)⟩
  rcases List.mem_append.mp hd with hd | hd
  · simp [hLead d hd]
  · simp [hTrail d hd]

/-- The separator that splits a text is its first one. -/
theorem splitOnce_append {separator : Char} {left : List Char} (h : separator ∉ left)
    (right : List Char) :
    splitOnce separator (left ++ separator :: right) = some (left, right) := by
  induction left with
  | nil => simp [splitOnce]
  | cons c left ih =>
      have hOther : c ≠ separator := fun hEq => h (hEq ▸ List.mem_cons_self ..)
      simp [splitOnce, hOther, ih fun hMem => h (List.mem_cons_of_mem _ hMem)]

/-- The characters of joined pieces are those of the pieces and of the separator. -/
theorem forall_mem_intercalate {P : Char → Prop} {separator : List Char}
    (hSeparator : ∀ c ∈ separator, P c) {pieces : List (List Char)}
    (hPieces : ∀ piece ∈ pieces, ∀ c ∈ piece, P c) : ∀ c ∈ separator.intercalate pieces, P c := by
  induction pieces with
  | nil => simp
  | cons piece rest ih =>
      have hRest := ih fun other hOther => hPieces other (List.mem_cons_of_mem _ hOther)
      cases rest with
      | nil => simpa using hPieces piece (List.mem_cons_self ..)
      | cons next rest =>
          intro c hc
          rw [List.intercalate_cons_cons, List.mem_append, List.mem_append] at hc
          rcases hc with (hc | hc) | hc
          · exact hPieces piece (List.mem_cons_self ..) c hc
          · exact hSeparator c hc
          · exact hRest c hc

theorem mem_intercalate {separator c : Char} {piece : List Char} {pieces : List (List Char)}
    (hPiece : piece ∈ pieces) (hc : c ∈ piece) : c ∈ [separator].intercalate pieces := by
  induction pieces with
  | nil => cases hPiece
  | cons first rest ih =>
      cases rest with
      | nil =>
          rw [List.mem_singleton] at hPiece
          simpa [hPiece] using hc
      | cons next rest =>
          rw [List.intercalate_cons_cons]
          rcases List.mem_cons.mp hPiece with rfl | hPiece
          · simp [hc]
          · simp [ih hPiece]

theorem lt_of_isDigit {c : Char} (h : isDigit c = true) : c.toNat < 128 := by
  simp only [isDigit, Bool.and_eq_true, decide_eq_true_eq] at h
  exact Nat.lt_of_le_of_lt h.2 (by decide)

theorem lt_of_isLetter {c : Char} (h : isLetter c = true) : c.toNat < 128 := by
  simp only [isLetter, Bool.or_eq_true, Bool.and_eq_true, decide_eq_true_eq] at h
  rcases h with ⟨-, h⟩ | ⟨-, h⟩
  · exact Nat.lt_of_le_of_lt h (by decide)
  · exact Nat.lt_of_le_of_lt h (by decide)

/-- A space and a tab may stand in a header and are blanks of the text. -/
theorem blank_traits {c : Char} (h : c = ' ' ∨ c = '\t') :
    IsPlain c ∧ isBlank c = true := by
  rcases h with rfl | rfl <;> decide

end Text

/-! ## What a token is made of -/

namespace Token

/-- The URL-safe alphabet and the dot between segments. -/
def IsTokenChar (c : Char) : Prop :=
  Text.isLetter c ∨ Text.isDigit c ∨ c = '-' ∨ c = '_' ∨ c = '.'

instance (c : Char) : Decidable (IsTokenChar c) :=
  inferInstanceAs (Decidable (_ ∨ _))

theorem isTokenChar_base64Char (n : Nat) : IsTokenChar (Bytes.base64Char n) := by
  by_cases h : n < 64
  · have hAll : ∀ n < 64, IsTokenChar (Bytes.base64Char n) := by decide
    exact hAll n h
  · rw [Bytes.base64Char, if_neg (by omega), if_neg (by omega), if_neg (by omega),
      if_neg (by omega)]
    decide

/-- The alphabet of the encoding has characters of tokens only. -/
theorem isTokenChar_of_mem_toBase64Url {bytes : Bytes} {c : Char}
    (h : c ∈ Bytes.toBase64Url bytes) : IsTokenChar c := by
  fun_induction Bytes.toBase64Url bytes with
  | case1 => cases h
  | case2 a =>
      simp only [List.mem_cons, List.not_mem_nil, or_false] at h
      rcases h with rfl | rfl <;> exact isTokenChar_base64Char _
  | case3 a b =>
      simp only [List.mem_cons, List.not_mem_nil, or_false] at h
      rcases h with rfl | rfl | rfl <;> exact isTokenChar_base64Char _
  | case4 a b c rest ih =>
      simp only [List.mem_cons] at h
      rcases h with rfl | rfl | rfl | rfl | h
      · exact isTokenChar_base64Char _
      · exact isTokenChar_base64Char _
      · exact isTokenChar_base64Char _
      · exact isTokenChar_base64Char _
      · exact ih h

theorem isTokenChar_of_mem_joinSegments {pieces : List (List Char)}
    (hPieces : ∀ piece ∈ pieces, ∀ c ∈ piece, IsTokenChar c) :
    ∀ c ∈ joinSegments pieces, IsTokenChar c :=
  Text.forall_mem_intercalate (Text.forall_of_all (by decide)) hPieces

/-- A text that can be borne: it is not empty, and made of the characters of tokens. -/
def IsBearable (text : List Char) : Prop :=
  text ≠ [] ∧ ∀ c ∈ text, IsTokenChar c

/-- A sealed token can be carried in a header and in a cookie. -/
theorem isBearable_sealToken (key : Key) (iv payload : Bytes) :
    IsBearable (sealToken key iv payload).toList := by
  unfold sealToken
  dsimp only
  rw [String.toList_ofList]
  refine ⟨?_, isTokenChar_of_mem_joinSegments fun piece hPiece c hc => ?_⟩
  · rw [joinSegments, List.intercalate_cons_cons]
    simp
  · simp only [List.mem_cons, List.not_mem_nil, or_false] at hPiece
    rcases hPiece with rfl | rfl | rfl | rfl | rfl
    · exact isTokenChar_of_mem_toBase64Url hc
    · cases hc
    · exact isTokenChar_of_mem_toBase64Url hc
    · exact isTokenChar_of_mem_toBase64Url hc
    · exact isTokenChar_of_mem_toBase64Url hc

theorem IsTokenChar.lt {c : Char} (h : IsTokenChar c) : c.toNat < 128 := by
  rcases h with h | h | rfl | rfl | rfl
  · exact Text.lt_of_isLetter h
  · exact Text.lt_of_isDigit h
  · decide
  · decide
  · decide

/-- A character of a token may stand in a header, and it is no blank, quote or separator. -/
theorem IsTokenChar.traits {c : Char} (h : IsTokenChar c) :
    Text.IsPlain c ∧ Text.isBlank c = false ∧ c ≠ '"' := by
  exact Text.ascii_forall
    (P := fun c => IsTokenChar c → Text.IsPlain c ∧ Text.isBlank c = false ∧ c ≠ '"')
    (by decide) h.lt h

end Token

/-! ## Where a token stands in a request -/

namespace Credential

/-- The pieces between the semicolons of all cookie headers that can be read, in order. -/
def pieces (headers : Http.Headers) : List (List Char) :=
  ((headers.values "cookie").filterMap Text.readable?).flatMap fun value => value.splitOn ';'

/-- What a cookie for the token begins with. -/
def cookieName : List Char := "Authorization".toList

/-- The request bears the token: behind the scheme in its authorization header, or, where the
service allows it and there is no such header, as the value of its first cookie with the right
name. There may be blanks around the words of the header and around the name and the value of the
cookie, and quotes around the value. -/
inductive Bears (token : List Char) (headers : Http.Headers) (cookieFallback : Bool) :
    CredentialSource → Prop
  | header (lead scheme gap trail : List Char)
      (hBlanks : ∀ c ∈ lead ++ gap ++ trail, c = ' ' ∨ c = '\t') (hGap : gap ≠ [])
      (hScheme : Text.lower scheme = "bearer".toList)
      (h : headers.first? "authorization" =
        some (Bytes.ofText (String.ofList (lead ++ (scheme ++ (gap ++ (token ++ trail))))))) :
      Bears token headers cookieFallback .header
  | cookie (earlier later : List (List Char)) (lead gap opening closing trail : List Char)
      (hBlanks : ∀ c ∈ lead ++ gap ++ trail, c = ' ' ∨ c = '\t')
      (hQuotes : ∀ c ∈ opening ++ closing, c = '"')
      (hAllowed : cookieFallback = true) (hAbsent : headers.first? "authorization" = none)
      (hPieces : pieces headers = earlier ++
        (lead ++ (cookieName ++ '=' :: (gap ++ (opening ++ token ++ closing))) ++ trail) :: later)
      (hFirst : ∀ piece ∈ earlier, ¬ cookieName ++ ['='] <+: Text.trim piece) :
      Bears token headers cookieFallback .cookie

variable {headers : Http.Headers} {token : List Char}

/-- Each pair of the cookie headers is a cookie if there is an equals sign in it. -/
theorem cookies_eq (headers : Http.Headers) :
    cookies headers =
      (pieces headers).filterMap fun pair => Text.splitOnce '=' (Text.trim pair) := by
  simp only [cookies, pieces, List.filterMap_flatMap, List.splitOn_eq_splitOnP]

/-- Letters of the scheme, in whatever case, are plain. -/
theorem scheme_solid {scheme : List Char} (h : Text.lower scheme = "bearer".toList) {c : Char}
    (hc : c ∈ scheme) : Text.IsPlain c ∧ Text.isBlank c = false := by
  have hLower : Text.lowerChar c ∈ "bearer".toList := h ▸ List.mem_map_of_mem hc
  have hBound : c.toNat < 128 := by
    have hLowerBound := Text.forall_of_all (P := fun d => d.toNat < 128) (by decide) _ hLower
    unfold Text.lowerChar at hLowerBound
    split at hLowerBound
    · next hUpper => exact Nat.lt_of_le_of_lt hUpper.2 (by decide)
    · exact hLowerBound
  exact Text.ascii_forall (P := fun c => Text.lowerChar c ∈ "bearer".toList →
    Text.IsPlain c ∧ Text.isBlank c = false) (by decide) hBound hLower

/-- Two words of which the first is the scheme bear the second. -/
theorem parseBearer_words {value scheme : List Char} (hWords : Text.words value = [scheme, token])
    (hScheme : Text.lower scheme = "bearer".toList) : parseBearer value = .ok token := by
  rw [parseBearer, hWords]
  exact if_pos hScheme

/-- Behind the scheme a token is found that has no blanks in it. -/
theorem parseBearer_written {lead scheme gap trail : List Char}
    (hBlanks : ∀ c ∈ lead ++ gap ++ trail, c = ' ' ∨ c = '\t') (hGap : gap ≠ [])
    (hScheme : Text.lower scheme = "bearer".toList) (hSome : token ≠ [])
    (hSolid : ∀ c ∈ token, Text.IsPlain c ∧ Text.isBlank c = false) :
    (∀ c ∈ lead ++ (scheme ++ (gap ++ (token ++ trail))), Text.IsPlain c) ∧
      parseBearer (lead ++ (scheme ++ (gap ++ (token ++ trail)))) = .ok token := by
  have hBlank {c : Char} (hc : c ∈ lead ++ gap ++ trail) := Text.blank_traits (hBlanks c hc)
  refine ⟨fun c hc => ?_, ?_⟩
  · simp only [List.mem_append] at hc
    rcases hc with hc | hc | hc | hc | hc
    · exact (hBlank (by simp [hc])).1
    · exact (scheme_solid hScheme hc).1
    · exact (hBlank (by simp [hc])).1
    · exact (hSolid c hc).1
    · exact (hBlank (by simp [hc])).1
  · have hFirst : scheme ≠ [] := by
      rintro rfl
      exact absurd hScheme (by decide)
    have hLead : ∀ c ∈ lead, Text.isBlank c = true := fun c hc => (hBlank (by simp [hc])).2
    have hApart : ∀ c ∈ gap, Text.isBlank c = true := fun c hc => (hBlank (by simp [hc])).2
    have hTrail : ∀ c ∈ trail, Text.isBlank c = true := fun c hc => (hBlank (by simp [hc])).2
    have hWords := Text.words_pair hLead hApart hTrail hGap
      ⟨hFirst, fun c hc => (scheme_solid hScheme hc).2⟩ ⟨hSome, fun c hc => (hSolid c hc).2⟩
    exact parseBearer_words hWords hScheme

/-- The first cookie with the right name is found behind all those that have another one. -/
theorem find?_cookies {earlier later : List (List Char)} {pair value : List Char}
    (hPieces : pieces headers = earlier ++ pair :: later)
    (hPair : Text.splitOnce '=' (Text.trim pair) = some (cookieName, value))
    (hFirst : ∀ piece ∈ earlier, ¬ cookieName ++ ['='] <+: Text.trim piece) :
    (cookies headers).find? (fun cookie => cookie.1 == "Authorization".toList) =
      some (cookieName, value) := by
  rw [cookies_eq, hPieces, List.filterMap_append, List.find?_append, List.find?_eq_none.mpr,
    Option.none_or, List.filterMap_cons, hPair]
  · rfl
  · rintro ⟨name, rest⟩ hMem hName
    obtain ⟨piece, hPiece, hCut⟩ := List.mem_filterMap.mp hMem
    obtain rfl : name = cookieName := eq_of_beq hName
    have hShape := (Text.splitOnce_eq_some hCut).1
    exact hFirst piece hPiece ⟨rest, by simp [hShape]⟩

/-- Blanks around a pair do not change its name. -/
theorem splitOnce_trim_pair {lead gap value trail : List Char}
    (hLead : ∀ c ∈ lead, Text.isBlank c = true) (hTrail : ∀ c ∈ trail, Text.isBlank c = true)
    (hValue : value ≠ []) (hLast : ∀ c ∈ value.getLast?, Text.isBlank c = false) :
    Text.splitOnce '=' (Text.trim (lead ++ (cookieName ++ '=' :: (gap ++ value)) ++ trail)) =
      some (cookieName, gap ++ value) := by
  rw [Text.trim_padded hLead hTrail (fun c hc => ?_) (fun c hc => hLast c ?_)]
  · exact Text.splitOnce_append (by decide) _
  · have hName : cookieName.head? = some 'A' := by decide
    rw [List.head?_append, hName] at hc
    cases hc
    decide
  · rw [List.append_cons, ← List.append_assoc, List.getLast?_append] at hc
    cases hEnd : value.getLast? with
    | none => exact (hValue (List.getLast?_eq_none_iff.mp hEnd)).elim
    | some d => simpa [hEnd] using hc

/-- The first cookie with the name of the token counts, whatever stands before and after it. -/
theorem cookieToken?_of_pieces (hToken : Token.IsBearable token)
    {earlier later : List (List Char)} {lead gap opening closing trail : List Char}
    (hBlanks : ∀ c ∈ lead ++ gap ++ trail, c = ' ' ∨ c = '\t')
    (hQuotes : ∀ c ∈ opening ++ closing, c = '"')
    (hPieces : pieces headers = earlier ++
      (lead ++ (cookieName ++ '=' :: (gap ++ (opening ++ token ++ closing))) ++ trail) :: later)
    (hFirst : ∀ piece ∈ earlier, ¬ cookieName ++ ['='] <+: Text.trim piece) :
    cookieToken? headers = some token := by
  have hQuoted : Text.trimOf '"' (opening ++ token ++ closing) = token :=
    Text.trimOf_padded (fun c hc => hQuotes c (by simp [hc]))
      (fun c hc => hQuotes c (by simp [hc])) fun hc => (hToken.2 _ hc).traits.2.2 rfl
  have hSolid : ∀ c ∈ opening ++ token ++ closing, Text.isBlank c = false := by
    intro c hc
    simp only [List.mem_append] at hc
    rcases hc with (hc | hc) | hc
    · rw [hQuotes c (by simp [hc])]
      decide
    · exact (hToken.2 c hc).traits.2.1
    · rw [hQuotes c (by simp [hc])]
      decide
  have hSome : opening ++ token ++ closing ≠ [] := by simp [hToken.1]
  generalize opening ++ token ++ closing = value at hSolid hPieces hQuoted hSome
  have hBlank {c : Char} (hc : c ∈ lead ++ gap ++ trail) : Text.isBlank c = true :=
    (Text.blank_traits (hBlanks c hc)).2
  have hLast : ∀ c ∈ value.getLast?, Text.isBlank c = false := fun c hc =>
    hSolid c (List.mem_of_getLast? hc)
  have hGap : ∀ c ∈ gap, Text.isBlank c = true := fun c hc => hBlank (by simp [hc])
  have hTrimmed : Text.trim (gap ++ value) = value := by
    have hPadded := Text.trim_padded hGap
      (fun c hc => (List.not_mem_nil hc).elim)
      (fun c hc => hSolid c (List.mem_of_mem_head? hc)) hLast
    simpa using hPadded
  have hFound := find?_cookies hPieces (splitOnce_trim_pair (fun c hc => hBlank (by simp [hc]))
    (fun c hc => hBlank (by simp [hc])) hSome hLast) hFirst
  rw [cookieToken?, hFound]
  dsimp only [Option.bind_eq_bind, Option.bind_some]
  rw [hTrimmed, hQuoted, if_neg]
  simpa using hToken.1

/-- A token that is borne by a request is found in it, just as it is. -/
theorem find_of_bears (hToken : Token.IsBearable token) {cookieFallback : Bool}
    {source : CredentialSource} (h : Bears token headers cookieFallback source) :
    find headers cookieFallback = .ok (token, source) := by
  cases h with
  | header lead scheme gap trail hBlanks hGap hScheme h =>
      obtain ⟨hPlain, hParsed⟩ := parseBearer_written hBlanks hGap hScheme hToken.1
        fun c hc => ⟨(hToken.2 c hc).traits.1, (hToken.2 c hc).traits.2.1⟩
      rw [find, h]
      dsimp only
      rw [Text.readable?_ofText hPlain]
      dsimp only
      rw [hParsed]
      rfl
  | cookie earlier later lead gap opening closing trail hBlanks hQuotes hAllowed hAbsent hPieces
      hFirst =>
      rw [find, hAbsent]
      dsimp only
      rw [if_pos hAllowed, cookieSource,
        cookieToken?_of_pieces hToken hBlanks hQuotes hPieces hFirst]

end Credential

end Gatehouse
