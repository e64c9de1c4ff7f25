import Gatehouse.Proofs.Bearing

/-! The cookie that stands in for an authorization header. All cookie headers that can be read are
cut at semicolons, and of the pieces in order the first that names the token counts, whatever comes
before or behind it. -/
namespace Gatehouse.Credential

/-! ## Cutting -/

/-- Headers are cut into pieces, in order. Those that cannot be read have none, any other is its
pieces with semicolons between them. -/
inductive Cut : List Bytes → List (List Char) → Prop
  | nil : Cut [] []
  | unreadable {value : Bytes} {values : List Bytes} {pieces : List (List Char)}
      (hUnreadable : ∃ b ∈ value, Text.isReadableByte b = false) (h : Cut values pieces) :
      Cut (value :: values) pieces
  | readable {values : List Bytes} {parts pieces : List (List Char)} (hSome : parts ≠ [])
      (hParts : ∀ part ∈ parts, ';' ∉ part ∧ ∀ c ∈ part, Text.IsPlain c) (h : Cut values pieces) :
      Cut (Bytes.ofText (String.ofList ([';'].intercalate parts)) :: values) (parts ++ pieces)

/-- The pieces of the headers with these values. -/
def piecesOf (values : List Bytes) : List (List Char) :=
  (values.filterMap Text.readable?).flatMap fun value => value.splitOn ';'

/-- A value that cannot be read is passed over. -/
theorem piecesOf_cons_unreadable {value : Bytes} (h : Text.readable? value = none)
    (values : List Bytes) : piecesOf (value :: values) = piecesOf values := by
  rw [piecesOf, List.filterMap_cons_none h]
  rfl

/-- The pieces of a value come before those of the values after it. -/
theorem piecesOf_cons_readable {value : Bytes} {text : List Char}
    (h : Text.readable? value = some text) (values : List Bytes) :
    piecesOf (value :: values) = text.splitOn ';' ++ piecesOf values := by
  rw [piecesOf, List.filterMap_cons_some h]
  rfl

/-- Cutting as a predicate is what splitting computes. -/
theorem cut_iff {values : List Bytes} {pieces : List (List Char)} :
    Cut values pieces ↔ pieces = piecesOf values := by
  constructor
  · intro h
    induction h with
    | nil => rfl
    | unreadable hUnreadable _ ih =>
        obtain ⟨b, hb, hByte⟩ := hUnreadable
        have hNone : Text.readable? _ = none := if_neg fun hAll => by
          rw [List.all_eq_true.mp hAll b hb] at hByte
          cases hByte
        rw [piecesOf_cons_unreadable hNone, ih]
    | readable hSome hParts _ ih =>
        have hSeparator : ∀ c ∈ [';'], Text.IsPlain c := Text.forall_of_all (by decide)
        have hPlain := Text.forall_mem_intercalate hSeparator
          fun part hPart => (hParts part hPart).2
        rw [piecesOf_cons_readable (Text.readable?_ofText hPlain), ih,
          List.splitOn_intercalate ';' (fun part hPart => (hParts part hPart).1) hSome]
  · rintro rfl
    induction values with
    | nil => exact .nil
    | cons value values ih =>
        cases hRead : Text.readable? value with
        | none =>
            rw [piecesOf_cons_unreadable hRead]
            refine .unreadable ?_ ih
            by_contra hAll
            simp only [not_exists, not_and, Bool.not_eq_false] at hAll
            rw [Text.readable?, if_pos (List.all_eq_true.mpr hAll)] at hRead
            cases hRead
        | some text =>
            rw [piecesOf_cons_readable hRead]
            obtain ⟨hPlain, rfl⟩ := Text.readable?_eq_some_iff.mp hRead
            have hWhole : [';'].intercalate (text.splitOn ';') = text :=
              List.intercalate_splitOn ';'
            have hParts : ∀ part ∈ text.splitOn ';', ';' ∉ part ∧ ∀ c ∈ part, Text.IsPlain c :=
              fun part hPart => ⟨Text.not_mem_of_mem_splitOnP (by rwa [← List.splitOn_eq_splitOnP]),
                fun c hc => hPlain c (hWhole ▸ Text.mem_intercalate hPart hc)⟩
            have hCut := Cut.readable (by simp [List.splitOn_eq_splitOnP]) hParts ih
            rwa [hWhole] at hCut

/-! ## Naming -/

/-- Without the blanks around it, the piece is the name of the cookie for a token and a value. -/
def Names (piece value : List Char) : Prop :=
  Text.Strips Text.isBlank piece (cookieName ++ '=' :: value)

theorem splitOnce_trim_iff {piece value : List Char} :
    Text.splitOnce '=' (Text.trim piece) = some (cookieName, value) ↔ Names piece value := by
  rw [Names, Text.strips_isBlank_iff]
  constructor
  · intro h
    exact (Text.splitOnce_eq_some h).1
  · intro h
    rw [h]
    exact Text.splitOnce_append (by decide) value

/-- The first of the pieces that names the cookie decides: its value without the blanks around it,
and then without the quotes around it, is the token, unless nothing is left. -/
inductive Yields (pieces : List (List Char)) :
    Except CredentialError (List Char × CredentialSource) → Prop
  | unnamed (h : ∀ piece ∈ pieces, ∀ value, ¬ Names piece value) :
      Yields pieces (.error .missing)
  | empty {earlier later : List (List Char)} {piece value core : List Char}
      (hPieces : pieces = earlier ++ piece :: later)
      (hFirst : ∀ other ∈ earlier, ∀ value, ¬ Names other value) (hNames : Names piece value)
      (hCore : Text.Strips Text.isBlank value core) (h : Text.Strips (· == '"') core []) :
      Yields pieces (.error .missing)
  | token {earlier later : List (List Char)} {piece value core token : List Char}
      (hPieces : pieces = earlier ++ piece :: later)
      (hFirst : ∀ other ∈ earlier, ∀ value, ¬ Names other value) (hNames : Names piece value)
      (hCore : Text.Strips Text.isBlank value core) (h : Text.Strips (· == '"') core token)
      (hSome : token ≠ []) : Yields pieces (.ok (token, .cookie))

variable {headers : Http.Headers}

/-- What the first named piece is taken for. -/
def ofPiece (value : List Char) : Except CredentialError (List Char × CredentialSource) :=
  let token := Text.trimOf '"' (Text.trim value)
  if token.isEmpty then .error .missing else .ok (token, .cookie)

/-- Without a piece of that name there is no cookie. -/
theorem cookieSource_of_unnamed (h : ∀ piece ∈ pieces headers, ∀ value, ¬ Names piece value) :
    cookieSource headers = .error .missing := by
  have hNone :
      (cookies headers).find? (fun cookie => cookie.1 == "Authorization".toList) = none := by
    rw [List.find?_eq_none, cookies_eq]
    rintro ⟨name, value⟩ hMem hName
    obtain ⟨piece, hPiece, hCut⟩ := List.mem_filterMap.mp hMem
    obtain rfl : name = cookieName := eq_of_beq hName
    exact h piece hPiece value (splitOnce_trim_iff.mp hCut)
  rw [cookieSource, cookieToken?, hNone]
  rfl

/-- The first piece of that name decides, whether or not there is a token in it. -/
theorem cookieSource_of_named {earlier later : List (List Char)} {piece value : List Char}
    (hPieces : pieces headers = earlier ++ piece :: later)
    (hFirst : ∀ other ∈ earlier, ∀ value, ¬ Names other value) (hNames : Names piece value) :
    cookieSource headers = ofPiece value := by
  have hPrefix : ∀ other ∈ earlier, ¬ cookieName ++ ['='] <+: Text.trim other := by
    rintro other hOther ⟨rest, hRest⟩
    refine hFirst other hOther rest (Text.strips_isBlank_iff.mpr ?_)
    rw [← hRest, List.append_assoc]
    rfl
  have hFound := find?_cookies hPieces (splitOnce_trim_iff.mpr hNames) hPrefix
  rw [cookieSource, cookieToken?, hFound, ofPiece]
  dsimp only [Option.bind_eq_bind, Option.bind_some]
  split_ifs <;> rfl

/-- Among pieces there is a first one that names the cookie, or there is none. -/
theorem named_cases (pieces : List (List Char)) :
    (∀ piece ∈ pieces, ∀ value, ¬ Names piece value) ∨
      ∃ earlier piece later value, pieces = earlier ++ piece :: later ∧
        (∀ other ∈ earlier, ∀ value, ¬ Names other value) ∧ Names piece value := by
  induction pieces with
  | nil => exact .inl (by simp)
  | cons piece pieces ih =>
      by_cases hNamed : ∃ value, Names piece value
      · obtain ⟨value, hNames⟩ := hNamed
        exact .inr ⟨[], piece, pieces, value, rfl, by simp, hNames⟩
      · rcases ih with hNone | ⟨earlier, found, later, value, rfl, hFirst, hNames⟩
        · exact .inl (List.forall_mem_cons.mpr ⟨not_exists.mp hNamed, hNone⟩)
        · exact .inr ⟨piece :: earlier, found, later, value, rfl,
            List.forall_mem_cons.mpr ⟨not_exists.mp hNamed, hFirst⟩, hNames⟩

/-- What a row of pieces yields is what the search in the cookies finds. -/
theorem yields_iff {result : Except CredentialError (List Char × CredentialSource)} :
    Yields (pieces headers) result ↔ cookieSource headers = result := by
  constructor
  · intro h
    cases h with
    | unnamed h => exact cookieSource_of_unnamed h
    | empty hPieces hFirst hNames hCore h =>
        rw [cookieSource_of_named hPieces hFirst hNames, ofPiece,
          Text.strips_isBlank_iff.mp hCore, Text.strips_char_iff.mp h]
        rfl
    | token hPieces hFirst hNames hCore h hSome =>
        rw [cookieSource_of_named hPieces hFirst hNames, ofPiece,
          Text.strips_isBlank_iff.mp hCore, Text.strips_char_iff.mp h]
        exact if_neg (by simpa using hSome)
  · rintro rfl
    rcases named_cases (pieces headers) with
      hNone | ⟨earlier, piece, later, value, hPieces, hFirst, hNames⟩
    · rw [cookieSource_of_unnamed hNone]
      exact .unnamed hNone
    · have hCore : Text.Strips Text.isBlank value (Text.trim value) :=
        Text.strips_isBlank_iff.mpr rfl
      have hToken : Text.Strips (· == '"') (Text.trim value) (Text.trimOf '"' (Text.trim value)) :=
        Text.strips_char_iff.mpr rfl
      rw [cookieSource_of_named hPieces hFirst hNames, ofPiece]
      generalize Text.trimOf '"' (Text.trim value) = token at hToken
      cases token with
      | nil => exact .empty hPieces hFirst hNames hCore hToken
      | cons c token => exact .token hPieces hFirst hNames hCore hToken (List.cons_ne_nil _ _)

/-- A token that can be borne has neither blanks nor quotes around it. -/
theorem strips_of_isBearable {token : List Char} (h : Token.IsBearable token) :
    Text.Strips Text.isBlank token token ∧ Text.Strips (· == '"') token token := by
  refine ⟨⟨[], [], by simp, by simp, fun c hc => ?_, fun c hc => ?_⟩,
    ⟨[], [], by simp, by simp, fun c hc => ?_, fun c hc => ?_⟩⟩
  · exact (h.2 c (List.mem_of_mem_head? hc)).traits.2.1
  · exact (h.2 c (List.mem_of_getLast? hc)).traits.2.1
  · simpa using (h.2 c (List.mem_of_mem_head? hc)).traits.2.2
  · simpa using (h.2 c (List.mem_of_getLast? hc)).traits.2.2

theorem piecesOf_append (first second : List Bytes) :
    piecesOf (first ++ second) = piecesOf first ++ piecesOf second := by
  rw [piecesOf, List.filterMap_append, List.flatMap_append]
  rfl

/-- Without an authorization header, and where the service allows it, the token is what the first
piece of all cookie headers yields that names it. So a token in the URL-safe alphabet with dots is
found as it is among any other cookies, in whichever of several headers it stands. Where the service
does not allow it, cookies are not looked at. -/
theorem cookie_stands_in (headers : Http.Headers) (h : headers.first? "authorization" = none) :
    (∀ result, find headers true = result ↔
      ∃ pieces, Cut (headers.values "cookie") pieces ∧ Yields pieces result) ∧
    (∀ token, Token.IsBearable token → ∀ before value after earlierPieces earlier piece later,
      headers.values "cookie" = before ++ value :: after → Cut before earlierPieces →
      Cut [value] (earlier ++ piece :: later) →
      (∀ other ∈ earlierPieces ++ earlier, ∀ value, ¬ Names other value) → Names piece token →
      find headers true = .ok (token, .cookie)) ∧
    find headers false = .error .missing := by
  have hFind : find headers true = cookieSource headers := by
    rw [find, h]
    rfl
  refine ⟨fun result => ?_, ?_, ?_⟩
  · rw [hFind, ← yields_iff]
    constructor
    · exact fun hYields => ⟨pieces headers, cut_iff.mpr rfl, hYields⟩
    · rintro ⟨_, hCut, hYields⟩
      rwa [cut_iff.mp hCut] at hYields
  · intro token hToken before value after earlierPieces earlier piece later hValues hBefore hValue
      hFirst hNames
    obtain ⟨hCore, hQuotes⟩ := strips_of_isBearable hToken
    have hPieces : pieces headers =
        (earlierPieces ++ earlier) ++ piece :: (later ++ piecesOf after) := by
      rw [cut_iff] at hBefore hValue
      change piecesOf (headers.values "cookie") = _
      rw [hValues, ← List.singleton_append, piecesOf_append, piecesOf_append, ← hBefore, ← hValue]
      simp
    rw [hFind, ← yields_iff]
    exact .token hPieces hFirst hNames hCore hQuotes hToken.1
  · rw [find, h]
    rfl

/-- Cookies with an empty value, other letters or a blank in the name come first, and one of the
headers cannot be read. -/
def strewnCookies : Http.Headers :=
  ⟨[("cookie", [0xFF]), ("cookie", Bytes.ofText "theme=; authorization=x; Authorization =y"),
    ("cookie", Bytes.ofText "a=b=\"c; Authorization=a.b-c_D\t; Authorization=z")]⟩

/-- A cookie among others is found in its quotes, and left alone where cookies do not count. -/
theorem strewn_cookie_found :
    strewnCookies.first? "authorization" = none ∧
      find strewnCookies true = .ok ("a.b-c_D".toList, .cookie) ∧
      find strewnCookies false = .error .missing := by
  have hAbsent : strewnCookies.first? "authorization" = none := by decide
  have hOthers : ∀ other ∈ ["theme=".toList, " authorization=x".toList, " Authorization =y".toList,
      "a=b=\"c".toList], (Text.splitOnce '=' (Text.trim other)).map Prod.fst ≠ some cookieName := by
    decide
  obtain ⟨-, hFinds, hMissing⟩ := cookie_stands_in strewnCookies hAbsent
  refine ⟨hAbsent, ?_, hMissing⟩
  have hBearable : Token.IsBearable "a.b-c_D".toList := ⟨by decide, Text.forall_of_all (by decide)⟩
  refine hFinds _ hBearable [[0xFF], _] _ [] _ ["a=b=\"c".toList]
    " Authorization=a.b-c_D\t".toList [" Authorization=z".toList] rfl (cut_iff.mpr rfl)
    (cut_iff.mpr rfl) (fun other hOther value hNames => ?_) (splitOnce_trim_iff.mp (by decide))
  exact hOthers other hOther (by rw [splitOnce_trim_iff.mpr hNames]; rfl)

end Gatehouse.Credential
