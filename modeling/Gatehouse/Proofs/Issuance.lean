import Gatehouse.CommandLine.Issue
import Gatehouse.Proofs.RoundTrip
import Gatehouse.Proofs.Wording

/-! The command that issues tokens, against the service that verifies them. Issuing looks at the
lifetime alone, and refuses it just if it is out of range. Verifying looks at the tenant and the times
as well, so a token that the command prints may be of no use. -/
namespace Gatehouse

namespace Token

/-! ## Roles -/

/-- A text names the role of the number that it spells, or if it spells none the role of that name. -/
def Role.IsNamed (text : String) : Role → Prop
  | .id n => Text.SpellsInt Text.minI64 Text.maxI64 text.toList n
  | .name word => word = text ∧ ∀ n, ¬ Text.SpellsInt Text.minI64 Text.maxI64 text.toList n

/-- A role is named by a number or by its own name, and never by both. -/
theorem Role.isNamed_ofText (text : String) : (Role.ofText text).IsNamed text := by
  unfold Role.ofText
  split
  · next n hRead => exact Text.readInt?_eq_some_iff.mp hRead
  · next hRead =>
    refine ⟨rfl, fun n hSpelt => ?_⟩
    cases hRead.symm.trans (Text.readInt?_eq_some_iff.mpr hSpelt)

theorem Role.IsNamed.isI64 {text : String} {role : Role} (h : role.IsNamed text) :
    ∀ id, role = .id id → IsI64 id := by
  rintro id rfl
  exact h.2

/-! ## Lifetimes -/

/-- The most seconds that a lifetime can have. -/
def longestSeconds : Nat := 9223372036854775

/-- There is no lifetime as long as that. -/
theorem Lifetime.ofParts?_eq_none {seconds : Int} (h : longestSeconds < seconds.natAbs) :
    ofParts? seconds 0 = none := by
  unfold ofParts?
  simp only [longestSeconds, longestLifetime] at h ⊢
  exact dif_neg (by omega)

/-- Whole seconds within the bounds make a lifetime. -/
theorem Lifetime.exists_ofParts? {seconds : Int} (h : seconds.natAbs ≤ longestSeconds) :
    ∃ lifetime, ofParts? seconds 0 = some lifetime ∧ lifetime.seconds = seconds := by
  have hRange : -longestLifetime ≤ seconds * 1000000000 + (0 : Nat) ∧
      seconds * 1000000000 + (0 : Nat) ≤ longestLifetime ∧ 0 < 1000000000 := by
    simp only [longestSeconds, longestLifetime] at h ⊢
    omega
  refine ⟨_, dif_pos hRange, ?_⟩
  simp only [Lifetime.seconds]
  omega

/-- A time that saturates is later only where there is room for it. -/
theorem lt_addSaturating_iff {now seconds : Int} (hNow : IsI64 now) :
    now < addSaturating now seconds ↔ 1 ≤ seconds ∧ now < Text.maxI64 := by
  unfold addSaturating
  have hLow := hNow.1
  have hHigh := hNow.2
  simp only [Text.minI64, Text.maxI64] at *
  omega

end Token

namespace CommandLine

open Token

variable {iv : Bytes} {now : Int} {arguments : Arguments}

/-- The claims are what the arguments ask for, at a second of issuing. -/
structure Bears (arguments : Arguments) (now : Int) (claims : Claims) : Prop where
  userId : claims.userId = arguments.userId
  tenantId : claims.tenantId = arguments.tenantId
  role : claims.role.IsNamed arguments.role
  issuedAt : claims.issuedAt = now
  notBefore : claims.notBefore = now
  expiresAt : claims.expiresAt = addSaturating now arguments.lifetime

/-- The service takes the token in the second of its issuing for what the arguments ask for, and it
has not yet expired. -/
def Usable (key : Key) (token : String) (now : Int) (arguments : Arguments) : Prop :=
  ∃ claims, verify key token now = .ok claims ∧ Bears arguments now claims ∧ now < claims.expiresAt

/-- What the command prints in range: the token of claims that are what the arguments ask for. -/
theorem exists_issue_eq (key : Key) (iv : Bytes) (now : Int)
    (h : arguments.lifetime.natAbs ≤ longestSeconds) :
    ∃ claims, issue key iv now arguments = .issued claims (Token.issue key iv claims) ∧
      Bears arguments now claims := by
  obtain ⟨lifetime, hLifetime, hSeconds⟩ := Lifetime.exists_ofParts? h
  refine ⟨claimsAt arguments.userId arguments.tenantId (Role.ofText arguments.role) lifetime now,
    ?_, ?_⟩
  · simp only [issue, hLifetime]
  · exact ⟨rfl, rfl, Role.isNamed_ofText arguments.role, rfl, rfl,
      congrArg (addSaturating now) hSeconds⟩

/-- What a printed token bears can be written in one. -/
theorem Bears.fits {claims : Claims} (h : Bears arguments now claims)
    (hUser : IsI64 arguments.userId) (hNow : IsI64 now) : claims.Fits where
  userId := h.userId ▸ hUser
  role := h.role.isI64
  issuedAt := h.issuedAt ▸ hNow
  notBefore := h.notBefore ▸ hNow
  expiresAt := h.expiresAt ▸ isI64_addSaturating now arguments.lifetime

/-- A token is usable from the second of its issue just if its tenant has a name, its lifetime is
not empty and the clock has not come to its end. -/
theorem usable_iff (key : Key) {claims : Claims} (h : Bears arguments now claims)
    (hIv : iv.length = 12) (hUser : IsI64 arguments.userId) (hNow : IsI64 now) :
    Usable key (Token.issue key iv claims) now arguments ↔
      Text.trim arguments.tenantId.toList ≠ [] ∧ 1 ≤ arguments.lifetime ∧ now < Text.maxI64 := by
  unfold Usable
  simp only [verify_issue hIv key (h.fits hUser hNow), Claims.check_eq_ok_iff]
  rw [← lt_addSaturating_iff hNow, ← h.expiresAt, ← h.tenantId]
  constructor
  · rintro ⟨_, ⟨rfl, hTenant, -, hExpiry⟩, -⟩
    exact ⟨hTenant, hExpiry⟩
  · rintro ⟨hTenant, hExpiry⟩
    exact ⟨claims, ⟨rfl, hTenant, h.notBefore.le, hExpiry⟩, h, hExpiry⟩

/-- A token for a blank tenant is never accepted, at no time. -/
theorem verify_blank (key : Key) {claims : Claims} (h : Bears arguments now claims)
    (hIv : iv.length = 12) (hUser : IsI64 arguments.userId) (hNow : IsI64 now)
    (hBlank : Text.trim arguments.tenantId.toList = []) (time : Int) :
    verify key (Token.issue key iv claims) time = .error (.error .invalid) := by
  rw [verify_issue hIv key (h.fits hUser hNow)]
  exact Claims.check_eq_invalid_iff.mpr (h.tenantId ▸ hBlank)

/-- A lifetime out of range is refused, and for every other one a token is printed. That token can be
used when it is issued just if its tenant is not blank and its lifetime is positive (and the clock has
a later second to name). With a blank tenant it can be used at no time. -/
theorem printed_token_usable_iff (key : Key) (iv : Bytes) (hIv : iv.length = 12) (now : Int)
    (hNow : IsI64 now) (arguments : Arguments) (hUser : IsI64 arguments.userId) :
    (longestSeconds < arguments.lifetime.natAbs → issue key iv now arguments =
      .failed s!"--ttl-seconds out of range: {arguments.lifetime}") ∧
    (arguments.lifetime.natAbs ≤ longestSeconds → ∃ claims token,
      issue key iv now arguments = .issued claims token ∧
      (Usable key token now arguments ↔ Text.trim arguments.tenantId.toList ≠ [] ∧
        1 ≤ arguments.lifetime ∧ now < Text.maxI64) ∧
      (Text.trim arguments.tenantId.toList = [] →
        ∀ time, verify key token time = .error (.error .invalid))) := by
  constructor
  · intro hRange
    simp only [issue, Lifetime.ofParts?_eq_none hRange]
  · intro hRange
    obtain ⟨claims, hIssue, hBears⟩ := exists_issue_eq key iv now hRange
    exact ⟨claims, _, hIssue, usable_iff key hBears hIv hUser hNow,
      verify_blank key hBears hIv hUser hNow⟩

/-- Ten minutes for a member of a tenant. -/
def sampleArguments (tenantId : String) : Arguments :=
  ⟨1, tenantId, "member", 600⟩

/-- A token for a member is printed and accepted. -/
theorem member_token_usable :
    IsI64 1700000000 ∧ IsI64 (sampleArguments "tenant-a").userId ∧ ∃ claims token,
      issue sampleKey (List.replicate 12 1) 1700000000 (sampleArguments "tenant-a") =
          .issued claims token ∧
        Usable sampleKey token 1700000000 (sampleArguments "tenant-a") := by
  have hNow : IsI64 1700000000 := by decide
  have hUser : IsI64 (sampleArguments "tenant-a").userId := by decide
  obtain ⟨claims, token, hIssue, hUsable, -⟩ := (printed_token_usable_iff sampleKey
    (List.replicate 12 1) rfl 1700000000 hNow (sampleArguments "tenant-a") hUser).2 (by decide)
  exact ⟨hNow, hUser, claims, token, hIssue, hUsable.mpr (by decide)⟩

/-- For a tenant that is a blank the command prints a token which was never of any use. -/
theorem blank_tenant_token_useless : ∃ claims token,
    issue sampleKey (List.replicate 12 1) 1700000000 (sampleArguments " ") = .issued claims token ∧
      verify sampleKey token 1700000000 = .error (.error .invalid) ∧
      ¬ Usable sampleKey token 1700000000 (sampleArguments " ") := by
  have hBlank : Text.trim (sampleArguments " ").tenantId.toList = [] := by decide
  have hUser : IsI64 (sampleArguments " ").userId := by decide
  obtain ⟨claims, hIssue, hBears⟩ := exists_issue_eq sampleKey (List.replicate 12 1) 1700000000
    (by decide : (sampleArguments " ").lifetime.natAbs ≤ longestSeconds)
  have hIv : (List.replicate 12 1 : Bytes).length = 12 := rfl
  have hUseless := verify_blank sampleKey hBears hIv hUser (by decide) hBlank 1700000000
  refine ⟨claims, _, hIssue, hUseless, ?_⟩
  rintro ⟨verified, hVerified, -⟩
  cases hUseless.symm.trans hVerified

end CommandLine

end Gatehouse
