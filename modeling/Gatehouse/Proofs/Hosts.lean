import Gatehouse.Proofs.Bearing
import Gatehouse.Tenant.Host

/-! The port of a host. What stands before the first colon is the host itself if it is a name or an
address in dotted digits. Of an address in brackets, whose groups have colons between them, it is no
more than the bracket and the first group, so hosts are taken for one another. -/
namespace Gatehouse

/-! ## Cutting at a separator -/

namespace Text

/-- What stands before the first separator is not changed by anything behind it. -/
theorem before_append {separator : Char} {text rest : List Char} (hText : separator ∉ text)
    (hRest : ∀ c ∈ rest.head?, c = separator) : before separator (text ++ rest) = text := by
  have hPass : ∀ c ∈ text, (c != separator) = true := fun c hc => by
    simpa using fun hSame : c = separator => hText (hSame ▸ hc)
  rw [before, List.takeWhile_append_of_pos hPass]
  cases rest with
  | nil => simp
  | cons c rest => simp [hRest c rfl]

theorem before_eq_self {separator : Char} {text : List Char} (h : separator ∉ text) :
    before separator text = text := by
  have hAll : before separator (text ++ []) = text := before_append h (by simp)
  rwa [List.append_nil] at hAll

/-- What stands behind a separator has no part in what stands before it. -/
theorem before_append_separator (separator : Char) (text rest : List Char) :
    before separator (text ++ separator :: rest) = before separator text := by
  induction text with
  | nil => simp [before]
  | cons c text ih =>
      rw [before, before] at ih ⊢
      rw [List.cons_append, List.takeWhile_cons, List.takeWhile_cons, ih]

end Text

namespace Tenant

/-! ## Hosts -/

/-- Marks and delimiters in names, and the sign of an escape. -/
def nameSigns : List Char :=
  ['-', '.', '_', '~', '!', '$', '&', '\x27', '(', ')', '*', '+', ',', ';', '=', '%']

/-- A character of a name. -/
def IsNameChar (c : Char) : Prop :=
  Text.isLetter c ∨ Text.isDigit c ∨ c ∈ nameSigns

/-- A character of an address in brackets. -/
def IsAddressChar (c : Char) : Prop :=
  Text.isDigit c ∨ ('a' ≤ c ∧ c ≤ 'f') ∨ ('A' ≤ c ∧ c ≤ 'F') ∨ c = ':' ∨ c = '.'

instance (c : Char) : Decidable (IsNameChar c) :=
  inferInstanceAs (Decidable (_ ∨ _))

instance (c : Char) : Decidable (IsAddressChar c) :=
  inferInstanceAs (Decidable (_ ∨ _))

/-- The text of a host: a name, which may be an address in dotted digits, or an address in brackets,
which has colons. -/
inductive IsHost : List Char → Prop
  | name {text : List Char} (hSome : text ≠ []) (hChars : ∀ c ∈ text, IsNameChar c) : IsHost text
  | literal {address : List Char} (hColon : ':' ∈ address)
      (hChars : ∀ c ∈ address, IsAddressChar c) : IsHost ('[' :: (address ++ [']']))

def IsBracketed (host : List Char) : Prop :=
  host.head? = some '['

instance (host : List Char) : Decidable (IsBracketed host) :=
  inferInstanceAs (Decidable (_ = _))

/-- The request names a host by this text: in the first entry of the forwarded host, in the host
header if there is no such entry, or behind a user in its target if neither header names one. -/
inductive Names (headers : Http.Headers) (target : Http.Target) (text : List Char) : Prop
  | forwarded {lead trail more : List Char} (hBlanks : ∀ c ∈ lead ++ trail, c = ' ' ∨ c = '\t')
      (hEntry : ',' ∉ text) (hMore : ∀ c ∈ more.head?, c = ',') (hPlain : ∀ c ∈ more, Text.IsPlain c)
      (h : headers.first? "x-forwarded-host" =
        some (Bytes.ofText (String.ofList (lead ++ text ++ trail ++ more))))
  | header {lead trail : List Char} (hBlanks : ∀ c ∈ lead ++ trail, c = ' ' ∨ c = '\t')
      (hForwarded : forwardedHost? headers = none)
      (h : headers.first? "host" = some (Bytes.ofText (String.ofList (lead ++ text ++ trail))))
  | target {user : List Char} (hUser : ∀ c ∈ user.getLast?, c = '@')
      (hForwarded : forwardedHost? headers = none) (hHost : headers.trimmed? "host" = none)
      (h : target.authority = some (user ++ text))

/-- The host without a port, or with one. -/
def IsSpelling (host text : List Char) : Prop :=
  text = host ∨ ∃ port, (∀ c ∈ port, Text.isDigit c = true) ∧ text = host ++ ':' :: port

variable {host text : List Char} {headers : Http.Headers} {target : Http.Target}

/-- Nothing in a name takes part in the syntax around a host. -/
theorem IsNameChar.traits {c : Char} (h : IsNameChar c) :
    Text.IsPlain c ∧ Text.isBlank c = false ∧ c ∉ ['@', ':', '['] := by
  have hBound : c.toNat < 128 := by
    rcases h with h | h | h
    · exact Text.lt_of_isLetter h
    · exact Text.lt_of_isDigit h
    · exact Text.forall_of_all (P := fun c => c.toNat < 128) (by decide) c h
  exact Text.ascii_forall (P := fun c => IsNameChar c →
    Text.IsPlain c ∧ Text.isBlank c = false ∧ c ∉ ['@', ':', '[']) (by decide) hBound h

/-- Nothing in an address ends its brackets. -/
theorem IsAddressChar.traits {c : Char} (h : IsAddressChar c) :
    Text.IsPlain c ∧ Text.isBlank c = false ∧ c ∉ ['@', ']'] := by
  have hBound : c.toNat < 128 := by
    rcases h with h | ⟨-, h⟩ | ⟨-, h⟩ | rfl | rfl
    · exact Text.lt_of_isDigit h
    · exact Nat.lt_of_le_of_lt h (by decide)
    · exact Nat.lt_of_le_of_lt h (by decide)
    · decide
    · decide
  exact Text.ascii_forall (P := fun c => IsAddressChar c →
    Text.IsPlain c ∧ Text.isBlank c = false ∧ c ∉ ['@', ']']) (by decide) hBound h

/-- A host can stand in a header as it is, and no user is read from it. -/
theorem IsHost.traits (h : IsHost host) {c : Char} (hc : c ∈ host) :
    Text.IsPlain c ∧ Text.isBlank c = false ∧ c ≠ '@' := by
  cases h with
  | name _ hChars =>
      obtain ⟨hPlain, hBlank, hOther⟩ := (hChars c hc).traits
      exact ⟨hPlain, hBlank, fun hSame => hOther (by simp [hSame])⟩
  | literal _ hChars =>
      rcases List.mem_cons.mp hc with rfl | hc
      · decide
      · rcases List.mem_append.mp hc with hc | hc
        · obtain ⟨hPlain, hBlank, hOther⟩ := (hChars c hc).traits
          exact ⟨hPlain, hBlank, fun hSame => hOther (by simp [hSame])⟩
        · rw [List.mem_singleton.mp hc]
          decide

theorem IsHost.ne_nil (h : IsHost host) : host ≠ [] := by
  cases h with
  | name hSome _ => exact hSome
  | literal _ _ => exact List.cons_ne_nil _ _

/-- Before the first colon there is all of a name, and a beginning of an address in brackets. -/
theorem IsHost.before_cases (h : IsHost host) :
    ¬ IsBracketed host ∧ Text.before ':' host = host ∨
      IsBracketed host ∧ IsBracketed (Text.before ':' host) ∧ Text.before ':' host ≠ host := by
  cases h with
  | name hSome hChars =>
      refine .inl ⟨fun hBracket => ?_, Text.before_eq_self fun hColon => ?_⟩
      · exact (hChars '[' (List.mem_of_mem_head? hBracket)).traits.2.2 (by simp)
      · exact (hChars ':' hColon).traits.2.2 (by simp)
  | @literal address hColon hChars =>
      refine .inr ⟨rfl, rfl, fun hSame => ?_⟩
      have hMem : ':' ∈ Text.before ':' ('[' :: (address ++ [']'])) := by
        rw [hSame]
        simp [hColon]
      simpa using List.mem_takeWhile_imp hMem

/-! ## Ports -/

/-- A port is all that a spelling adds to its host. -/
theorem IsSpelling.exists_tail (h : IsSpelling host text) :
    ∃ tail, text = host ++ tail ∧ (∀ c ∈ tail.head?, c = ':') ∧
      ∀ c ∈ tail, c = ':' ∨ Text.isDigit c = true := by
  rcases h with rfl | ⟨port, hPort, rfl⟩
  · exact ⟨[], by simp⟩
  · exact ⟨':' :: port, rfl, by simp, by simpa using fun c hc => .inr (hPort c hc)⟩

theorem IsSpelling.traits (hHost : IsHost host) (h : IsSpelling host text) {c : Char}
    (hc : c ∈ text) : Text.IsPlain c ∧ Text.isBlank c = false ∧ c ≠ '@' := by
  obtain ⟨tail, rfl, -, hTail⟩ := h.exists_tail
  rcases List.mem_append.mp hc with hc | hc
  · exact hHost.traits hc
  · rcases hTail c hc with rfl | hDigit
    · decide
    · exact Text.ascii_forall (P := fun c => Text.isDigit c = true →
        Text.IsPlain c ∧ Text.isBlank c = false ∧ c ≠ '@') (by decide)
        (Text.lt_of_isDigit hDigit) hDigit

/-- So the port is not looked at. -/
theorem IsSpelling.before_eq (h : IsSpelling host text) :
    Text.before ':' text = Text.before ':' host := by
  rcases h with rfl | ⟨port, -, rfl⟩
  · rfl
  · exact Text.before_append_separator ':' host port

/-- The user and the port are taken off a host in a target, even if it is in brackets. -/
theorem hostOf_spelling (hHost : IsHost host) (h : IsSpelling host text) {user : List Char}
    (hUser : ∀ c ∈ user.getLast?, c = '@') : Http.Target.hostOf (user ++ text) = host := by
  -- The last `@` is the one behind the user, because there is none in a host or a port.
  have hBare : Http.Target.withoutUser (user ++ text) = text := by
    have hFree : '@' ∉ text.reverse := fun hMem =>
      (h.traits hHost (List.mem_reverse.mp hMem)).2.2 rfl
    have hBefore : Text.before '@' (text.reverse ++ user.reverse) = text.reverse :=
      Text.before_append hFree (by simpa using hUser)
    rw [Http.Target.withoutUser, List.reverse_append]
    exact (congrArg List.reverse hBefore).trans (List.reverse_reverse text)
  obtain ⟨tail, rfl, hTail, -⟩ := h.exists_tail
  rw [Http.Target.hostOf, hBare]
  cases hHost with
  | name hSome hChars =>
      split
      · next rest hBracket =>
        obtain ⟨c, more, rfl⟩ := List.exists_cons_of_ne_nil hSome
        obtain ⟨rfl, -⟩ := List.cons.inj hBracket
        exact ((hChars '[' (List.mem_cons_self ..)).traits.2.2 (by simp)).elim
      · exact Text.before_append (fun hColon => (hChars ':' hColon).traits.2.2 (by simp)) hTail
  | @literal address _ hChars =>
      have hFree : ']' ∉ address := fun hMem => (hChars ']' hMem).traits.2.2 (by simp)
      have hBefore : Text.before ']' (address ++ ']' :: tail) = address :=
        Text.before_append hFree (by simp)
      rw [List.cons_append, List.append_assoc, List.singleton_append]
      exact congrArg (fun inner => '[' :: inner ++ [']']) hBefore

/-- A text of a host is what is left of it when the blanks around it are taken off. -/
theorem IsSpelling.trim_eq (hHost : IsHost host) (h : IsSpelling host text)
    {lead trail : List Char} (hBlanks : ∀ c ∈ lead ++ trail, c = ' ' ∨ c = '\t') :
    (∀ c ∈ lead ++ text ++ trail, Text.IsPlain c) ∧ Text.trim (lead ++ text ++ trail) = text ∧
      text ≠ [] := by
  have hLead : ∀ c ∈ lead, Text.IsPlain c ∧ Text.isBlank c = true := fun c hc =>
    Text.blank_traits (hBlanks c (List.mem_append_left _ hc))
  have hTrail : ∀ c ∈ trail, Text.IsPlain c ∧ Text.isBlank c = true := fun c hc =>
    Text.blank_traits (hBlanks c (List.mem_append_right _ hc))
  refine ⟨fun c hc => ?_, ?_, ?_⟩
  · simp only [List.mem_append] at hc
    rcases hc with (hc | hc) | hc
    · exact (hLead c hc).1
    · exact (h.traits hHost hc).1
    · exact (hTrail c hc).1
  · exact Text.trim_padded (fun c hc => (hLead c hc).2) (fun c hc => (hTrail c hc).2)
      (fun c hc => (h.traits hHost (List.mem_of_mem_head? hc)).2.1)
      (fun c hc => (h.traits hHost (List.mem_of_getLast? hc)).2.1)
  · obtain ⟨tail, rfl, -⟩ := h.exists_tail
    simp [hHost.ne_nil]

/-- Any of the three sources names the host, with or without its port. -/
theorem namedHost?_of_names (hHost : IsHost host) (h : IsSpelling host text)
    (hNames : Names headers target text) :
    ∃ named, namedHost? headers target = some named ∧ IsSpelling host named := by
  cases hNames with
  | @forwarded lead trail more hBlanks hEntry hMore hPlain hValue =>
      obtain ⟨hAll, hTrim, hSome⟩ := h.trim_eq hHost hBlanks
      have hFree : ',' ∉ lead ++ text ++ trail := fun hMem => by
        have hOther : ∀ c ∈ lead ++ trail, c ≠ ',' := fun c hc => by
          rcases hBlanks c hc with rfl | rfl <;> decide
        simp only [List.mem_append] at hMem hOther
        rcases hMem with (hMem | hMem) | hMem
        · exact hOther _ (.inl hMem) rfl
        · exact hEntry hMem
        · exact hOther _ (.inr hMem) rfl
      have hRead := Text.readable?_ofText (List.forall_mem_append.mpr ⟨hAll, hPlain⟩)
      refine ⟨text, ?_, h⟩
      rw [namedHost?, forwardedHost?, hValue, Option.bind_some, hRead]
      dsimp only
      rw [Text.before_append hFree hMore, hTrim, if_neg (by simpa using hSome)]
      rfl
  | @header lead trail hBlanks hForwarded hValue =>
      obtain ⟨hAll, hTrim, hSome⟩ := h.trim_eq hHost hBlanks
      refine ⟨text, ?_, h⟩
      rw [namedHost?, hForwarded, Http.Headers.trimmed?, hValue, Option.bind_some,
        Text.readable?_ofText hAll]
      dsimp only
      rw [hTrim, if_neg (by simpa using hSome)]
      rfl
  | target hUser hForwarded hNone hAuthority =>
      refine ⟨host, ?_, .inl rfl⟩
      rw [namedHost?, hForwarded, hNone, Http.Target.host?, hAuthority, Option.map_some,
        hostOf_spelling hHost h hUser]
      rfl

/-- The effective host is what stands before the first colon of the host. -/
theorem effectiveHost?_of_names (hHost : IsHost host) (h : IsSpelling host text)
    (hNames : Names headers target text) :
    effectiveHost? headers target = some (Text.before ':' host) := by
  obtain ⟨named, hNamed, hSpelling⟩ := namedHost?_of_names hHost h hNames
  have hSome : Text.before ':' host ≠ [] := by
    rcases hHost.before_cases with ⟨-, hSame⟩ | ⟨-, hBracket, -⟩
    · rw [hSame]
      exact hHost.ne_nil
    · intro hNone
      rw [hNone] at hBracket
      cases hBracket
  rw [effectiveHost?, hNamed]
  dsimp only [Option.bind_eq_bind, Option.bind_some]
  rw [hSpelling.before_eq, if_neg (by simpa using hSome)]

/-! ## Telling hosts apart -/

/-- The request names the host, by whichever source, and with or without a port. -/
def PointsTo (headers : Http.Headers) (target : Http.Target) (host : List Char) : Prop :=
  ∃ text, IsSpelling host text ∧ Names headers target text

/-- The effective host of a request for a host is this host, whatever its port, unless it is an
address in brackets, and then it never is. So two requests have the same effective host just if they
are for the same one, or for two addresses in brackets with the same text up to the first colon. -/
theorem host_kept_unless_bracketed (hHost : IsHost host) (h : PointsTo headers target host) :
    (effectiveHost? headers target = some host ↔ ¬ IsBracketed host) ∧
    ∀ otherHeaders otherTarget other, IsHost other → PointsTo otherHeaders otherTarget other →
      (effectiveHost? headers target = effectiveHost? otherHeaders otherTarget ↔
        host = other ∨ IsBracketed host ∧ IsBracketed other ∧
          Text.before ':' host = Text.before ':' other) := by
  obtain ⟨text, hSpelling, hNames⟩ := h
  rw [effectiveHost?_of_names hHost hSpelling hNames]
  refine ⟨?_, ?_⟩
  · rw [Option.some.injEq]
    rcases hHost.before_cases with ⟨hName, hSame⟩ | ⟨hBracket, -, hOther⟩
    · simp [hName, hSame]
    · simp [hBracket, hOther]
  · rintro otherHeaders otherTarget other hOther ⟨otherText, hOtherSpelling, hOtherNames⟩
    rw [effectiveHost?_of_names hOther hOtherSpelling hOtherNames, Option.some.injEq]
    constructor
    · intro hSame
      rcases hHost.before_cases with ⟨hName, hKept⟩ | ⟨hBracket, hBegins, -⟩
      · rcases hOther.before_cases with ⟨-, hOtherKept⟩ | ⟨-, hOtherBegins, -⟩
        · exact .inl (by rw [← hKept, hSame, hOtherKept])
        · rw [← hSame, hKept] at hOtherBegins
          exact (hName hOtherBegins).elim
      · rcases hOther.before_cases with ⟨hOtherName, hOtherKept⟩ | ⟨hOtherBracket, -, -⟩
        · rw [hSame, hOtherKept] at hBegins
          exact (hOtherName hBegins).elim
        · exact .inr ⟨hBracket, hOtherBracket, hSame⟩
    · rintro (rfl | ⟨-, -, hSame⟩)
      · rfl
      · exact hSame

/-- A request that names a host in its host header. -/
def namingHost (text : String) : Http.Headers :=
  ⟨[("host", Bytes.ofText text)]⟩

theorem pointsTo_namingHost {text : String} (h : IsSpelling host text.toList)
    (target : Http.Target) : PointsTo (namingHost text) target host := by
  have hValue : (namingHost text).first? "host" =
      some (Bytes.ofText (String.ofList ([] ++ text.toList ++ []))) := by
    simp [namingHost, Http.Headers.first?, Http.Headers.values]
  exact ⟨text.toList, h, .header (by simp) rfl hValue⟩

/-- A name and an address in dotted digits are told apart, with a port and without. -/
theorem name_kept_without_port :
    IsHost "acme.example.com".toList ∧
      PointsTo (namingHost "acme.example.com:8443") ⟨none, ['/']⟩ "acme.example.com".toList ∧
      effectiveHost? (namingHost "acme.example.com:8443") ⟨none, ['/']⟩ =
        some "acme.example.com".toList ∧
      effectiveHost? (namingHost "acme.example.com:8443") ⟨none, ['/']⟩ ≠
        effectiveHost? (namingHost "192.0.2.1") ⟨none, ['/']⟩ := by
  have hHost : IsHost "acme.example.com".toList :=
    .name (by decide) (Text.forall_of_all (by decide))
  have hPoints : PointsTo (namingHost "acme.example.com:8443") ⟨none, ['/']⟩
      "acme.example.com".toList :=
    pointsTo_namingHost (.inr ⟨"8443".toList, Text.forall_of_all (by decide), by decide⟩) _
  have hOther : IsHost "192.0.2.1".toList := .name (by decide) (Text.forall_of_all (by decide))
  obtain ⟨hKept, hApart⟩ := host_kept_unless_bracketed hHost hPoints
  refine ⟨hHost, hPoints, hKept.mpr (by decide), fun hSame => ?_⟩
  rcases (hApart _ _ _ hOther (pointsTo_namingHost (.inl rfl) _)).mp hSame with hEq | ⟨hBracket, -⟩
  · exact absurd hEq (by decide)
  · exact absurd hBracket (by decide)

/-- Two addresses in brackets are taken for one host, which neither of them is. -/
theorem bracketed_hosts_confused :
    IsHost "[2001:db8::1]".toList ∧
      PointsTo (namingHost "[2001:db8::1]:8443") ⟨none, ['/']⟩ "[2001:db8::1]".toList ∧
      IsHost "[2001:db8::2]".toList ∧
      PointsTo (namingHost "[2001:db8::2]") ⟨none, ['/']⟩ "[2001:db8::2]".toList ∧
      effectiveHost? (namingHost "[2001:db8::1]:8443") ⟨none, ['/']⟩ = some "[2001".toList ∧
      effectiveHost? (namingHost "[2001:db8::2]") ⟨none, ['/']⟩ = some "[2001".toList := by
  refine ⟨@IsHost.literal "2001:db8::1".toList (by decide) (Text.forall_of_all (by decide)),
    pointsTo_namingHost (.inr ⟨"8443".toList, Text.forall_of_all (by decide), by decide⟩) _,
    @IsHost.literal "2001:db8::2".toList (by decide) (Text.forall_of_all (by decide)),
    pointsTo_namingHost (.inl rfl) _, by decide, by decide⟩

end Tenant

end Gatehouse
