import Mathlib.Data.List.TakeWhile
import Mathlib.Data.Rat.Floor
import Gatehouse.Proofs.Rendering
import Gatehouse.Proofs.TagStrength

/-! Issued tokens. What is stated in a token is read from it again, whatever the texts in it, and
so the token is verified as its claims say: within its time, and not at all for a blank tenant. -/
namespace Gatehouse

/-- The number fits in 64 bits, with a sign. -/
def IsI64 (n : Int) : Prop :=
  Text.minI64 ≤ n ∧ n ≤ Text.maxI64

instance (n : Int) : Decidable (IsI64 n) :=
  inferInstanceAs (Decidable (_ ∧ _))

/-! ## Blank texts -/

namespace Text

/-- A text is blank just if trimming leaves nothing of it. -/
theorem isBlankText_iff {text : List Char} : isBlankText text = true ↔ trim text = [] := by
  have hBlank : isBlankText text = true ↔ text.dropWhile isBlank = [] := by
    rw [isBlankText, List.all_eq_true, List.dropWhile_eq_nil_iff]
  rw [hBlank]
  constructor
  · intro h
    rw [trim, trimLeft, h]
    rfl
  · intro h
    rw [trim, trimRight, trimLeft, List.reverse_eq_nil_iff, List.dropWhile_eq_nil_iff] at h
    cases hLeft : text.dropWhile isBlank with
    | nil => rfl
    | cons c rest =>
        have hFirst : isBlank c = true := h c (by simp [hLeft])
        have hHead := List.head?_dropWhile_not isBlank text
        simp [hLeft, hFirst] at hHead

end Text

namespace Token

/-! ## Claims -/

theorem readInt?_int {n : Int} (h : IsI64 n) : Claims.readInt? (.int n) = some n :=
  if_pos h

/-- The numbers in the claims fit in 64 bits. -/
structure Claims.Fits (claims : Claims) : Prop where
  userId : IsI64 claims.userId
  role : ∀ id, claims.role = .id id → IsI64 id
  issuedAt : IsI64 claims.issuedAt
  notBefore : IsI64 claims.notBefore
  expiresAt : IsI64 claims.expiresAt

/-- A role is read as it was written. -/
theorem readRole?_toJson {role : Role} (h : ∀ id, role = .id id → IsI64 id) :
    Claims.readRole? (role.toJson.map some) = some role := by
  cases role with
  | id value =>
      change (Claims.readInt? (.int value)).map Role.id = _
      rw [readInt?_int (h value rfl)]
      rfl
  | name value => rfl

/-- The payload of claims states just these claims. -/
theorem Claims.parse?_payload {claims : Claims} (h : claims.Fits) :
    Claims.parse? (Bytes.ofText claims.payload) = some claims := by
  have hMembers : claims.toJson.map some = .object
      [(some "user_id", .int claims.userId), (some "tenant_id", .string (some claims.tenantId)),
       (some "role", claims.role.toJson.map some), (some "iat", .int claims.issuedAt),
       (some "nbf", .int claims.notBefore), (some "exp", .int claims.expiresAt)] := rfl
  rw [Claims.parse?, Claims.payload, Json.parse?_render, Option.bind_some, hMembers, ofJson?,
    if_pos (by rfl)]
  simp [field?, Json.valuesOf, ofValues?, readText?, readInt?_int, readRole?_toJson h.role,
    h.userId, h.issuedAt, h.notBefore, h.expiresAt]

/-! ## Times -/

namespace Lifetime

/-- Whole seconds are the time rounded up, before and after zero. -/
theorem seconds_eq_ceil (lifetime : Lifetime) :
    lifetime.seconds = ⌈(lifetime.nanoseconds : ℚ) / 1000000000⌉ :=
  (Rat.ceil_intCast_div_natCast lifetime.nanoseconds 1000000000).symm

end Lifetime

/-- A sum that saturates stays within 64 bits. -/
theorem isI64_addSaturating (a b : Int) : IsI64 (addSaturating a b) := by
  have hRange : Text.minI64 ≤ Text.maxI64 := by decide
  unfold addSaturating IsI64
  omega

/-- The claims of an issued token can be written in one. -/
theorem fits_claimsAt {userId now : Int} {role : Role} (hUser : IsI64 userId) (hNow : IsI64 now)
    (hRole : ∀ id, role = .id id → IsI64 id) (tenantId : String) (lifetime : Lifetime) :
    (claimsAt userId tenantId role lifetime now).Fits :=
  ⟨hUser, hRole, hNow, hNow, isI64_addSaturating _ _⟩

/-! ## Verdicts -/

/-- Claims are accepted as they are, for a tenant with a name and within their time. -/
theorem Claims.check_eq_ok_iff {claims verified : Claims} {now : Int} :
    claims.check now = .ok verified ↔ verified = claims ∧ Text.trim claims.tenantId.toList ≠ [] ∧
      claims.notBefore ≤ now ∧ now < claims.expiresAt := by
  unfold Claims.check
  split
  · next hBlank => simp [Text.isBlankText_iff.mp hBlank]
  · next hBlank =>
    rw [Text.isBlankText_iff] at hBlank
    split
    · next hExpired => simp [not_lt.mpr hExpired]
    · next hExpired =>
      split
      · next hEarly => simp [not_le.mpr hEarly]
      · next hEarly =>
        simp only [Except.ok.injEq, hBlank, not_lt.mp hEarly, not_le.mp hExpired, ne_eq,
          not_false_eq_true, and_true]
        exact eq_comm

/-- Of the reasons to refuse, a blank tenant comes first and the expiry second. -/
theorem Claims.check_eq_expired_iff {claims : Claims} {now : Int} :
    claims.check now = .error (.error .expired) ↔
      Text.trim claims.tenantId.toList ≠ [] ∧ claims.expiresAt ≤ now := by
  simp only [Claims.check, Text.isBlankText_iff]
  split_ifs <;> simp_all

/-- Claims that have not expired may be too early. -/
theorem Claims.check_eq_notYetValid_iff {claims : Claims} {now : Int} :
    claims.check now = .error (.error .notYetValid) ↔ Text.trim claims.tenantId.toList ≠ [] ∧
      now < claims.expiresAt ∧ now < claims.notBefore := by
  simp only [Claims.check, Text.isBlankText_iff]
  split_ifs <;> simp_all

theorem Claims.check_eq_invalid_iff {claims : Claims} {now : Int} :
    claims.check now = .error (.error .invalid) ↔ Text.trim claims.tenantId.toList = [] := by
  simp only [Claims.check, Text.isBlankText_iff]
  split_ifs <;> simp_all

/-! ## Issuing -/

/-- A token is verified by its claims, at whatever time. -/
theorem verify_issue {iv : Bytes} (hIv : iv.length = 12) (key : Key) {claims : Claims}
    (h : claims.Fits) (time : Int) : verify key (issue key iv claims) time = claims.check time := by
  have hSome : iv ≠ [] := List.ne_nil_of_length_pos (by omega)
  have hShort : iv.length ≤ Envelope.maxIvLength := by
    rw [hIv]
    decide
  exact verify_of_openToken (openToken_sealToken key hSome hShort _) (Claims.parse?_payload h) time

/-- A token that was issued to a user verifies with its key to just what was issued, from its first
second on and before it expires: that is after its lifetime, rounded up to whole seconds, and not
beyond the range of 64 bits. A blank tenant makes it invalid; this, its expiry and its beginning
are looked at in this order. -/
theorem issued_token_verifies (key : Key) (iv : Bytes) (hIv : iv.length = 12) (userId now : Int)
    (hUser : IsI64 userId) (hNow : IsI64 now) (tenantId : String) (role : Role)
    (hRole : ∀ id, role = .id id → IsI64 id) (lifetime : Lifetime) (time : Int) :
    verify key (issue key iv (claimsAt userId tenantId role lifetime now)) time =
      let expiry := max Text.minI64
        (min Text.maxI64 (now + ⌈(lifetime.nanoseconds : ℚ) / 1000000000⌉))
      if Text.trim tenantId.toList = [] then .error (.error .invalid)
      else if expiry ≤ time then .error (.error .expired)
      else if time < now then .error (.error .notYetValid)
      else .ok ⟨userId, tenantId, role, now, now, expiry⟩ := by
  rw [verify_issue hIv key (fits_claimsAt hUser hNow hRole tenantId lifetime),
    ← lifetime.seconds_eq_ceil]
  simp only [Claims.check, Text.isBlankText_iff]
  rfl

/-- A second and a half. -/
def sampleLifetime : Lifetime := ⟨1500000000, by decide, by decide⟩

/-- At the end of all times a token lives for one second less than it should. -/
theorem last_token_verifies :
    IsI64 (-1) ∧ IsI64 (Text.maxI64 - 1) ∧
      verify sampleKey (issue sampleKey (List.replicate 12 1)
          (claimsAt (-1) "\x01 \"é\\" (.name "-42") sampleLifetime (Text.maxI64 - 1)))
          (Text.maxI64 - 1) =
        .ok ⟨-1, "\x01 \"é\\", .name "-42", Text.maxI64 - 1, Text.maxI64 - 1, Text.maxI64⟩ := by
  have hUser : IsI64 (-1) := by decide
  have hNow : IsI64 (Text.maxI64 - 1) := by decide
  refine ⟨hUser, hNow, ?_⟩
  have hCeil : ⌈(sampleLifetime.nanoseconds : ℚ) / 1000000000⌉ = 2 := by
    norm_num [sampleLifetime]
  rw [issued_token_verifies sampleKey _ rfl (-1) _ hUser hNow _ _ (by simp), hCeil]
  have hTrim : Text.trim "\x01 \"é\\".toList ≠ [] := by decide
  have hExpiry : max Text.minI64 (min Text.maxI64 (Text.maxI64 - 1 + 2)) = Text.maxI64 := by decide
  simp only [hTrim, hExpiry, if_false]
  rfl

end Token

end Gatehouse
