import Gatehouse.Proofs.RoundTrip

/-! The payloads that state claims. A sealed payload is judged by the claims that are stated in
it, and it states claims only if it has the syntax of a JSON text of an object that has each of the
six members once, or of an array of the six values. Strings that are read, among them the names of
all members of the object, are texts. The other strings lie in the values of members that are ignored,
and their bytes need not be UTF-8. -/
namespace Gatehouse.Token

/-! ## Fields -/

/-- There is one member with this name, and it has the value. -/
def Once (key : String) (value : Json (Option String))
    (members : List (Option String × Json (Option String))) : Prop :=
  ∃ before after, members = before ++ (some key, value) :: after ∧
    ∀ member ∈ before ++ after, member.1 ≠ some key

/-- A member counts if its name is written once. -/
theorem Claims.field?_eq_some_iff {key : String} {value : Json (Option String)}
    {members : List (Option String × Json (Option String))} :
    field? key members = some value ↔ Once key value members := by
  have hField : field? key members = some value ↔ Json.valuesOf (some key) members = [value] := by
    unfold field?
    split
    · next other hOne => simp [hOne]
    · next hNot =>
      simp only [reduceCtorEq, false_iff]
      exact hNot value
  rw [hField, Json.valuesOf, List.map_eq_singleton_iff]
  constructor
  · rintro ⟨⟨name, other⟩, hFilter, rfl⟩
    obtain ⟨before, after, rfl, hBefore, hName, hAfter⟩ := List.filter_eq_cons_iff.mp hFilter
    obtain rfl : name = some key := by simpa using hName
    refine ⟨before, after, rfl, fun member hMember => ?_⟩
    rcases List.mem_append.mp hMember with hMember | hMember
    · simpa using hBefore member hMember
    · simpa using List.filter_eq_nil_iff.mp hAfter member hMember
  · rintro ⟨before, after, rfl, hOthers⟩
    refine ⟨(some key, value), List.filter_eq_cons_iff.mpr ⟨before, after, rfl, ?_, ?_, ?_⟩, rfl⟩
    · intro member hMember
      simpa using hOthers member (List.mem_append_left _ hMember)
    · simp
    · refine List.filter_eq_nil_iff.mpr fun member hMember => ?_
      simpa using hOthers member (List.mem_append_right _ hMember)

/-! ## Values -/

/-- A number is taken from an integer of 64 bits. -/
theorem Claims.readInt?_eq_some_iff {value : Json (Option String)} {n : Int} :
    readInt? value = some n ↔ IsI64 n ∧ value = .int n := by
  constructor
  · intro h
    unfold readInt? at h
    split at h
    · split at h
      · next hRange =>
        cases h
        exact ⟨hRange, rfl⟩
      · cases h
    · cases h
  · rintro ⟨hRange, rfl⟩
    exact readInt?_int hRange

theorem Claims.readText?_eq_some_iff {value : Json (Option String)} {text : String} :
    readText? value = some text ↔ value = .string (some text) := by
  cases value <;> simp [readText?]

/-- A role is taken from the form that it is written in. -/
theorem Claims.readRole?_eq_some_iff {value : Json (Option String)} {role : Role} :
    readRole? value = some role ↔
      (∀ id, role = .id id → IsI64 id) ∧ value = role.toJson.map some := by
  constructor
  · intro h
    unfold readRole? at h
    split at h
    · obtain ⟨name, rfl, rfl⟩ := Option.map_eq_some_iff.mp h
      exact ⟨fun id hId => (nomatch hId), rfl⟩
    · obtain ⟨n, hRead, rfl⟩ := Option.map_eq_some_iff.mp h
      obtain ⟨hRange, rfl⟩ := readInt?_eq_some_iff.mp hRead
      refine ⟨fun id hId => ?_, rfl⟩
      cases hId
      exact hRange
  · rintro ⟨hRange, rfl⟩
    exact readRole?_toJson hRange

/-- A JSON value states the claims: as an object whose members all have a name and among which
each of the six is found once, or as an array of the six values. -/
inductive Claims.StatedBy (claims : Claims) : Json (Option String) → Prop
  | object {members : List (Option String × Json (Option String))}
      (hNames : ∀ member ∈ members, member.1 ≠ none)
      (hUserId : Once "user_id" (.int claims.userId) members)
      (hTenantId : Once "tenant_id" (.string (some claims.tenantId)) members)
      (hRole : Once "role" (claims.role.toJson.map some) members)
      (hIssuedAt : Once "iat" (.int claims.issuedAt) members)
      (hNotBefore : Once "nbf" (.int claims.notBefore) members)
      (hExpiresAt : Once "exp" (.int claims.expiresAt) members) : StatedBy claims (.object members)
  | array : StatedBy claims (.array
      [.int claims.userId, .string (some claims.tenantId), claims.role.toJson.map some,
       .int claims.issuedAt, .int claims.notBefore, .int claims.expiresAt])

/-- The payload is a JSON text that states the claims, with numbers that fit in 64 bits. In a string
of which only the syntax counts, it may hold bytes of no text. -/
structure Claims.WrittenIn (claims : Claims) (payload : Bytes) : Prop where
  fits : claims.Fits
  stated : ∃ value, Json.IsTextOf value payload ∧ claims.StatedBy value

/-- Six values of the right forms make claims. -/
theorem Claims.ofValues?_eq_some_iff
    {userId tenantId role issuedAt notBefore expiresAt : Json (Option String)} {claims : Claims} :
    ofValues? userId tenantId role issuedAt notBefore expiresAt = some claims ↔
      claims.Fits ∧ userId = .int claims.userId ∧ tenantId = .string (some claims.tenantId) ∧
        role = claims.role.toJson.map some ∧ issuedAt = .int claims.issuedAt ∧
        notBefore = .int claims.notBefore ∧ expiresAt = .int claims.expiresAt := by
  simp only [ofValues?, Option.bind_eq_bind, Option.bind_eq_some_iff, readInt?_eq_some_iff,
    readText?_eq_some_iff, readRole?_eq_some_iff, Option.some.injEq]
  constructor
  · rintro ⟨_, ⟨hUser, rfl⟩, _, rfl, _, ⟨hRole, rfl⟩, _, ⟨hIssued, rfl⟩, _, ⟨hBefore, rfl⟩, _,
      ⟨hExpires, rfl⟩, rfl⟩
    exact ⟨⟨hUser, hRole, hIssued, hBefore, hExpires⟩, rfl, rfl, rfl, rfl, rfl, rfl⟩
  · rintro ⟨hFits, rfl, rfl, rfl, rfl, rfl, rfl⟩
    exact ⟨_, ⟨hFits.userId, rfl⟩, _, rfl, _, ⟨hFits.role, rfl⟩, _, ⟨hFits.issuedAt, rfl⟩, _,
      ⟨hFits.notBefore, rfl⟩, _, ⟨hFits.expiresAt, rfl⟩, rfl⟩

/-- A value makes the claims that it states, and no others. -/
theorem Claims.ofJson?_eq_some_iff {value : Json (Option String)} {claims : Claims} :
    ofJson? value = some claims ↔ claims.Fits ∧ claims.StatedBy value := by
  constructor
  · intro h
    unfold ofJson? at h
    split at h
    · next members =>
      split at h
      · next hNames =>
        simp only [Option.bind_eq_bind, Option.bind_eq_some_iff, field?_eq_some_iff] at h
        obtain ⟨userId, hUserId, tenantId, hTenantId, role, hRole, issuedAt, hIssuedAt, notBefore,
          hNotBefore, expiresAt, hExpiresAt, hValues⟩ := h
        obtain ⟨hFits, rfl, rfl, rfl, rfl, rfl, rfl⟩ := ofValues?_eq_some_iff.mp hValues
        refine ⟨hFits, .object (fun member hMember => ?_) hUserId hTenantId hRole hIssuedAt
          hNotBefore hExpiresAt⟩
        exact Option.isSome_iff_ne_none.mp (List.all_eq_true.mp hNames member hMember)
      · cases h
    · obtain ⟨hFits, rfl, rfl, rfl, rfl, rfl, rfl⟩ := ofValues?_eq_some_iff.mp h
      exact ⟨hFits, .array⟩
    · cases h
  · rintro ⟨hFits, hStated⟩
    have hValues := ofValues?_eq_some_iff.mpr ⟨hFits, rfl, rfl, rfl, rfl, rfl, rfl⟩
    cases hStated with
    | object hNames hUserId hTenantId hRole hIssuedAt hNotBefore hExpiresAt =>
        have hAll := List.all_eq_true.mpr fun member hMember =>
          Option.isSome_iff_ne_none.mpr (hNames member hMember)
        rw [ofJson?, if_pos hAll, field?_eq_some_iff.mpr hUserId, field?_eq_some_iff.mpr hTenantId,
          field?_eq_some_iff.mpr hRole, field?_eq_some_iff.mpr hIssuedAt,
          field?_eq_some_iff.mpr hNotBefore, field?_eq_some_iff.mpr hExpiresAt]
        exact hValues
    | array => exact hValues

/-- The claims that are read from a payload are those that are written in it. -/
theorem Claims.parse?_eq_some_iff {payload : Bytes} {claims : Claims} :
    Claims.parse? payload = some claims ↔ claims.WrittenIn payload := by
  rw [Claims.parse?, Option.bind_eq_some_iff]
  constructor
  · rintro ⟨value, hText, hClaims⟩
    obtain ⟨hFits, hStated⟩ := ofJson?_eq_some_iff.mp hClaims
    exact ⟨hFits, value, Json.parse?_eq_some_iff.mp hText, hStated⟩
  · rintro ⟨hFits, value, hText, hStated⟩
    exact ⟨value, Json.parse?_eq_some_iff.mpr hText, ofJson?_eq_some_iff.mpr ⟨hFits, hStated⟩⟩

/-! ## Verdicts -/

/-- A token that can be opened is still invalid if its payload states no claims. -/
theorem verify_of_unstated {key : Key} {token : String} {payload : Bytes}
    (hOpened : openToken key token = .ok payload) (hNone : Claims.parse? payload = none)
    (now : Int) : verify key token now = .error (.error .invalid) := by
  unfold verify
  rw [hOpened]
  dsimp only [bind, Except.bind]
  rw [hNone]

/-- A payload that was sealed under `A256GCM` without compression is judged at every time by what
is written in it. If it states claims, and these name a tenant that is not blank, the token has
expired, is not valid yet or is accepted with just these claims, the first of these that applies. Any
other payload is invalid. -/
theorem payload_judged_by_claims (key : Key) {headerBytes : Bytes}
    (hHeader : Header.parse? headerBytes = some ⟨.gcm, false⟩) {iv : Bytes} (hIv : iv ≠ [])
    (hShort : iv.length ≤ Envelope.maxIvLength) (payload : Bytes) (now : Int) :
    let verdict := verify key (sealUnder key headerBytes iv payload) now
    (∀ claims, verdict = .ok claims ↔ claims.WrittenIn payload ∧
      Text.trim claims.tenantId.toList ≠ [] ∧ claims.notBefore ≤ now ∧ now < claims.expiresAt) ∧
    (verdict = .error (.error .expired) ↔ ∃ claims : Claims, claims.WrittenIn payload ∧
      Text.trim claims.tenantId.toList ≠ [] ∧ claims.expiresAt ≤ now) ∧
    (verdict = .error (.error .notYetValid) ↔ ∃ claims : Claims, claims.WrittenIn payload ∧
      Text.trim claims.tenantId.toList ≠ [] ∧ now < claims.expiresAt ∧ now < claims.notBefore) ∧
    (verdict = .error (.error .invalid) ↔ ∀ claims : Claims, claims.WrittenIn payload →
      Text.trim claims.tenantId.toList = []) := by
  have hOpened := openToken_sealUnder key hHeader hIv hShort payload
  dsimp only
  simp only [← Claims.parse?_eq_some_iff]
  cases hClaims : Claims.parse? payload with
  | none =>
      rw [verify_of_unstated hOpened hClaims]
      simp
  | some stated =>
      rw [verify_of_openToken hOpened hClaims]
      refine ⟨fun claims => ?_, ?_, ?_, ?_⟩
      · rw [Claims.check_eq_ok_iff, Option.some.injEq, eq_comm]
        refine and_congr_right fun hSame => ?_
        rw [hSame]
      · simp [Claims.check_eq_expired_iff]
      · simp [Claims.check_eq_notYetValid_iff]
      · simp [Claims.check_eq_invalid_iff]

/-- The members may come in any order, among others of any depth, and their names may be escaped. -/
def strewnPayload : Bytes :=
  Bytes.ofText ("\x7b \"exp\":1700000060,\"x\":[[\x7b\"y\":[1e999,\"\\udc00\"]\x7d]]," ++
    "\"user\\u005fid\":42,\"tenant_id\":\"t1\",\"role\":\"admin\"," ++
    "\"nbf\":1700000000, \"iat\" : 1700000000 \x7d\n")

/-- So the payload above is accepted. -/
theorem strewn_payload_accepted :
    Header.parse? (Bytes.ofText Header.issued.render) = some ⟨.gcm, false⟩ ∧
      List.replicate 12 (1 : UInt8) ≠ [] ∧
      (List.replicate 12 (1 : UInt8)).length ≤ Envelope.maxIvLength ∧
      verify sampleKey (sealUnder sampleKey (Bytes.ofText Header.issued.render)
        (List.replicate 12 1) strewnPayload) 1700000000 = .ok sampleClaims := by
  have hWritten : sampleClaims.WrittenIn strewnPayload :=
    Claims.parse?_eq_some_iff.mp (by decide +kernel)
  refine ⟨parse?_issued, by decide, by decide, ?_⟩
  exact ((payload_judged_by_claims sampleKey parse?_issued (by decide) (by decide) strewnPayload
    1700000000).1 sampleClaims).mpr ⟨hWritten, by decide, by decide, by decide⟩

/-! ## Strings that are no texts -/

/-- The claims of the payloads with a string that is no text. -/
def plainClaims : Claims := ⟨42, "t", .id 1, 1700000000, 1700000000, 1700000060⟩

/-- The six members of these claims, behind another one. -/
def plainMembers : String :=
  ",\"user_id\":42,\"tenant_id\":\"t\",\"role\":1," ++
    "\"iat\":1700000000,\"nbf\":1700000000,\"exp\":1700000060\x7d"

/-- Half of a surrogate pair as the name of a member, beside the six members. -/
def garbledNamePayload : Bytes :=
  Bytes.ofText ("\x7b\"\\ud800\":0" ++ plainMembers)

/-- Bytes that are no UTF-8 in the value of a member, beside the six members. -/
def garbledValuePayload : Bytes :=
  Bytes.ofText "\x7b\"x\":\"" ++ ([0xFF, 0xFE] ++ Bytes.ofText ("\"" ++ plainMembers))

/-- A text of an object that has each of the six members once is refused because of the name of
another member, although it is the name of none of them and spelled as JSON has it. On the other
hand, the value of another member may hold any bytes in a string: then the payload is accepted,
although it is no text at all. -/
theorem garbled_name_refused_value_accepted :
    (∃ members, Json.IsTextOf (.object members) garbledNamePayload ∧
      Once "user_id" (.int plainClaims.userId) members ∧
      Once "tenant_id" (.string (some plainClaims.tenantId)) members ∧
      Once "role" (plainClaims.role.toJson.map some) members ∧
      Once "iat" (.int plainClaims.issuedAt) members ∧
      Once "nbf" (.int plainClaims.notBefore) members ∧
      Once "exp" (.int plainClaims.expiresAt) members) ∧
    plainClaims.Fits ∧ Text.trim plainClaims.tenantId.toList ≠ [] ∧
    plainClaims.notBefore ≤ 1700000000 ∧ 1700000000 < plainClaims.expiresAt ∧
    verify sampleKey (sealUnder sampleKey (Bytes.ofText Header.issued.render)
      (List.replicate 12 1) garbledNamePayload) 1700000000 = .error (.error .invalid) ∧
    ¬ garbledValuePayload.toByteArray.IsValidUTF8 ∧
    verify sampleKey (sealUnder sampleKey (Bytes.ofText Header.issued.render)
      (List.replicate 12 1) garbledValuePayload) 1700000000 = .ok plainClaims := by
  have hText : Json.parse? garbledNamePayload = some (.object
      [(none, .int 0), (some "user_id", .int 42), (some "tenant_id", .string (some "t")),
       (some "role", .int 1), (some "iat", .int 1700000000), (some "nbf", .int 1700000000),
       (some "exp", .int 1700000060)]) := rfl
  have hNone : Claims.parse? garbledNamePayload = none := by
    rw [Claims.parse?, hText]
    rfl
  have hSome : Claims.parse? garbledValuePayload = some plainClaims := rfl
  have hOpened (payload : Bytes) := openToken_sealUnder sampleKey parse?_issued
    (by decide : List.replicate 12 (1 : UInt8) ≠ []) (by decide) payload
  refine ⟨⟨_, Json.parse?_eq_some_iff.mp hText, ?_, ?_, ?_, ?_, ?_, ?_⟩, ?_, by decide, by decide,
    by decide, ?_, by decide +kernel, ?_⟩
  any_goals exact Claims.field?_eq_some_iff.mp rfl
  · exact ⟨by decide, fun id hId => by cases hId; decide, by decide, by decide, by decide⟩
  · exact verify_of_unstated (hOpened _) hNone _
  · rw [verify_of_openToken (hOpened _) hSome]
    exact Claims.check_eq_ok_iff.mpr ⟨rfl, by decide, by decide, by decide⟩

end Gatehouse.Token
