import Gatehouse.Proofs.Bearing
import Gatehouse.Proofs.Boundary
import Gatehouse.Proofs.Finalization

/-! Tokens without their initialization vector. The ciphers do not refuse such a token, they break
off: verifying it ends in a panic, and so does the request that bears it. Every other token comes to
claims or to an error, and the request goes on or is answered with 401. -/
namespace Gatehouse

namespace Token

/-- What comes after a step that may panic, and does not panic itself, does not matter. -/
theorem bind_panics_iff {α β : Type} {first : Except Failure α} {next : α → Except Failure β}
    (hNext : ∀ value message, next value ≠ .error (.panic message)) :
    (∃ message, first.bind next = .error (.panic message)) ↔
      ∃ message, first = .error (.panic message) := by
  cases first with
  | ok value =>
      constructor
      · rintro ⟨message, h⟩
        exact (hNext value message h).elim
      · rintro ⟨message, h⟩
        cases h
  | error failure => simp [Except.bind]

namespace Envelope

/-- The vector is missing, or too short for the cipher, at the point where the cipher needs it. One
cipher has looked at the tag by then, the other one at nothing. -/
def LacksVector (envelope : Envelope) : Prop :=
  match envelope.header.encryption with
  | .gcm => envelope.tag ≠ [] ∧ envelope.iv = []
  | .cbcHmac => envelope.iv.length < 16

/-- An empty tag is refused before the vector is looked at. -/
theorem decryptGcm_panics_iff {key : Key} {envelope : Envelope} :
    (∃ message, envelope.decryptGcm key = .error (.panic message)) ↔
      envelope.tag ≠ [] ∧ envelope.iv = [] := by
  unfold decryptGcm
  constructor
  · rintro ⟨message, h⟩
    split at h
    · cases h
    · next hTag =>
      split at h
      · next hIv => exact ⟨by simpa using hTag, by simpa using hIv⟩
      · split at h
        · cases h
        · split at h <;> cases h
  · rintro ⟨hTag, hIv⟩
    rw [if_neg (by simpa using hTag), if_pos (by simp [hIv])]
    exact ⟨_, rfl⟩

/-- This encryption needs a vector of a whole block. -/
theorem decryptCbcHmac_panics_iff {key : Key} {envelope : Envelope} :
    (∃ message, envelope.decryptCbcHmac key = .error (.panic message)) ↔
      envelope.iv.length < 16 := by
  unfold decryptCbcHmac
  constructor
  · rintro ⟨message, h⟩
    split at h
    · next hIv =>
      have hEmpty : envelope.iv = [] := by simpa using hIv
      rw [hEmpty]
      decide
    · split at h
      · next hShort => exact hShort
      · split at h <;> cases h
  · intro hShort
    by_cases hIv : envelope.iv.isEmpty
    · exact ⟨_, if_pos hIv⟩
    · rw [if_neg hIv, if_pos hShort]
      exact ⟨_, rfl⟩

/-- Each encryption breaks off at the vectors that are too short for it. -/
theorem body_panics_iff (key : Key) {envelope : Envelope} :
    (∃ message, envelope.body key = .error (.panic message)) ↔ envelope.LacksVector := by
  unfold body LacksVector
  cases envelope.header.encryption with
  | gcm => exact decryptGcm_panics_iff
  | cbcHmac => exact decryptCbcHmac_panics_iff

/-- Decompression comes after the cipher and does not panic. -/
theorem decrypt_panics_iff (key : Key) {envelope : Envelope} :
    (∃ message, envelope.decrypt key = .error (.panic message)) ↔ envelope.LacksVector := by
  rw [← body_panics_iff key, decrypt_eq]
  refine bind_panics_iff fun text message h => ?_
  split at h
  · split at h <;> cases h
  · cases h

end Envelope

/-- The token can be read, and lacks its vector. -/
def LacksVector (token : String) : Prop :=
  ∃ envelope, Envelope.parse? token.toList = some envelope ∧ envelope.LacksVector

/-- A token breaks its verification off by what its envelope lacks. -/
theorem openToken_panics_iff (key : Key) {token : String} :
    (∃ message, openToken key token = .error (.panic message)) ↔ LacksVector token := by
  unfold openToken LacksVector
  cases Envelope.parse? token.toList with
  | none => simp
  | some envelope => simpa using Envelope.decrypt_panics_iff key

/-- The claims are checked only after the decryption, and that check breaks nothing off. -/
theorem Claims.check_ne_panic (claims : Claims) (now : Int) (message : String) :
    claims.check now ≠ .error (.panic message) := by
  unfold check
  intro h
  split at h
  · cases h
  · split at h
    · cases h
    · split at h <;> cases h

/-- Neither the key nor the time matters: whether verifying a token panics can be told from the
token alone. -/
theorem verify_panics_iff (key : Key) {token : String} (now : Int) :
    (∃ message, verify key token now = .error (.panic message)) ↔ LacksVector token := by
  rw [← openToken_panics_iff key]
  refine bind_panics_iff fun payload message h => ?_
  split at h
  · cases h
  · next claims _ => exact Claims.check_ne_panic claims now message h

end Token

namespace Pipeline

variable {gate : Gate} {request : Http.Request}

/-- The time is read before the token is looked at, and it is the service's own. -/
theorem verifyToken_panics_iff {token : String} :
    (∃ panic, verifyToken gate request token = .error panic) ↔
      (request.now < 0 ∨ Clock.last < request.now) ∨ Token.LacksVector token := by
  rw [← timeOf_eq_error_iff]
  unfold verifyToken
  cases timeOf request with
  | error panic => exact ⟨fun _ => .inl ⟨panic, rfl⟩, fun _ => ⟨panic, rfl⟩⟩
  | ok now =>
      rw [← Token.verify_panics_iff gate.key (now / 1000)]
      cases hVerified : Token.verify gate.key token (now / 1000) with
      | ok claims => simp [Except.bind, hVerified]
      | error failure => cases failure <;> simp [Except.bind, hVerified]

/-- What comes of authorizing a request, whatever stands behind the stage: it goes on, it is
answered with 401, or it panics. -/
inductive Authorization (gate : Gate) (request : Http.Request) (context : Context) : Prop
  | passed (next : Context)
      (h : ∀ rest, authorize gate .bearer request context rest = rest next)
  | refused (event : Event) (response : Http.Response) (hStatus : response.status = 401)
      (h : ∀ rest, authorize gate .bearer request context rest =
        .log event (.done (.ok response)))
  | panicked (panic : Panic)
      (h : ∀ rest, authorize gate .bearer request context rest = .done (.error panic))

/-- The request bears a token that breaks its verification off, or bears any at all while the clock
cannot be read. -/
def BreaksOff (gate : Gate) (request : Http.Request) : Prop :=
  ∃ text source, Credential.find request.headers gate.cookieFallback = .ok (text, source) ∧
    ((request.now < 0 ∨ Clock.last < request.now) ∨ Token.LacksVector (String.ofList text))

/-- Whatever comes after the stage, it is not reached. -/
theorem authorize_of_breaksOff (context : Context) (h : BreaksOff gate request) :
    ∃ panic, ∀ rest, authorize gate .bearer request context rest = .done (.error panic) := by
  obtain ⟨text, source, hFound, hLacks⟩ := h
  obtain ⟨panic, hPanic⟩ := verifyToken_panics_iff.mpr hLacks
  refine ⟨panic, fun rest => ?_⟩
  rw [authorize, hFound]
  dsimp only
  rw [hPanic]

/-- Otherwise the request is let through or turned away. -/
theorem authorize_of_not_breaksOff (context : Context) (h : ¬ BreaksOff gate request) :
    (∃ next, ∀ rest, authorize gate .bearer request context rest = rest next) ∨
      ∃ reason details, ∀ rest, authorize gate .bearer request context rest =
        reject reason details := by
  unfold authorize
  cases hFound : Credential.find request.headers gate.cookieFallback with
  | error error => exact .inr ⟨_, _, fun _ => rfl⟩
  | ok found =>
      dsimp only
      cases hVerified : verifyToken gate request (String.ofList found.1) with
      | error panic =>
          exact (h ⟨found.1, found.2, hFound, verifyToken_panics_iff.mp ⟨panic, hVerified⟩⟩).elim
      | ok verified =>
          cases verified with
          | error error => exact .inr ⟨_, _, fun _ => rfl⟩
          | ok claims =>
              dsimp only
              unfold checkTenant
              cases context.tenant with
              | none => exact .inl ⟨_, fun _ => rfl⟩
              | some tenant =>
                  dsimp only
                  split
                  · exact .inl ⟨_, fun _ => rfl⟩
                  · exact .inr ⟨_, _, fun _ => rfl⟩

/-- A request that breaks off in this stage is answered by what catches panics. -/
theorem run_apply_of_breaksOff {σ : Type} {world : World σ} {deadline : Option Duration}
    {scene : Scene σ} (h : BreaksOff gate request) {tenant : Tenant} {tell : Answer → Answer}
    (hTenant : ((tenantFor gate request).run world deadline scene).ending =
      .finished (.ok tenant))
    (hQuota : ((quotaFor gate request).run world deadline
      ((tenantFor gate request).run world deadline scene).scene).ending = .finished (.ok tell))
    (handler : Handler) :
    ∃ panic, ((apply gate .bearer handler request).run world deadline scene).ending =
      .finished (.error panic) := by
  obtain ⟨panic, hPanic⟩ := authorize_of_breaksOff ⟨some tenant, none, none⟩ h
  refine ⟨panic, ?_⟩
  rw [apply, resolveTenant_eq, Program.run_bind_of_finished hTenant]
  dsimp only [Context.fresh]
  rw [limitRate_eq, Outcome.behind_ending, Program.run_bind_of_finished hQuota, hPanic]
  exact congrArg Ending.finished (quotaFor_panic hQuota panic)

/-- Verifying a token panics just if the token lacks its vector, under every key and at every time.
Authorizing a request for a protected operation passes it on, answers it with 401 or panics, and it
panics just if the token that the request bears does so, or the clock of the service cannot be
read. -/
theorem verification_panics_iff_lacks_vector (key : Token.Key) (token : String) (now : Int)
    (gate : Gate) (request : Http.Request) (context : Context) :
    ((∃ message, Token.verify key token now = .error (.panic message)) ↔
      Token.LacksVector token) ∧
    Authorization gate request context ∧
    ((∃ panic, ∀ rest, authorize gate .bearer request context rest = .done (.error panic)) ↔
      BreaksOff gate request) := by
  refine ⟨Token.verify_panics_iff key now, ?_, ?_, authorize_of_breaksOff context⟩
  · by_cases h : BreaksOff gate request
    · obtain ⟨panic, hPanic⟩ := authorize_of_breaksOff context h
      exact .panicked panic hPanic
    · rcases authorize_of_not_breaksOff context h with
        ⟨next, hNext⟩ | ⟨reason, details, hRefused⟩
      · exact .passed next hNext
      · exact .refused _ _ rfl hRefused
  · rintro ⟨panic, hPanic⟩
    refine Classical.byContradiction fun h => ?_
    -- A stage behind this one that does not panic tells the cases apart.
    have hOther := hPanic fun _ => Program.refuse .internal
    rcases authorize_of_not_breaksOff context h with
      ⟨next, hNext⟩ | ⟨reason, details, hRefused⟩
    · rw [hNext] at hOther
      cases hOther
    · rw [hRefused] at hOther
      cases hOther

/-! ## A token without a vector -/

/-- The header of every issued token, no vector, no ciphertext and a tag of one byte. -/
def vectorlessToken : String := "eyJhbGciOiJkaXIiLCJlbmMiOiJBMjU2R0NNIiwidHlwIjoiSldUIn0....AA"

def vectorlessRequest : Http.Request :=
  ⟨"GET", ⟨none, "/api/v1/me".toList⟩,
    ⟨[("host", Bytes.ofText "acme.app"),
      ("authorization", Bytes.ofText ("Bearer " ++ vectorlessToken))]⟩, none, 1700000000000⟩

theorem segments_vectorlessToken : Token.segments vectorlessToken.toList =
    [Bytes.toBase64Url (Bytes.ofText Token.Header.issued.render), [], [], [], ['A', 'A']] := by
  decide

/-- This token panics at its verification. -/
theorem verify_vectorlessToken : Token.verify sampleGate.key vectorlessToken 1700000000 =
    .error (.panic "an IV is required for this cipher") := by
  obtain ⟨envelope, hParsed, hHeader, hIv, hTag⟩ : ∃ envelope,
      Token.Envelope.parse? vectorlessToken.toList = some envelope ∧
        envelope.header = ⟨.gcm, false⟩ ∧ envelope.iv = [] ∧ envelope.tag = [0] :=
    ⟨⟨_, ⟨.gcm, false⟩, [], [], [0]⟩, Token.Envelope.parse?_eq_some_iff.mpr ⟨_, _, _, _, _,
      segments_vectorlessToken, Bytes.ofBase64Url?_toBase64Url _, Token.parse?_issued, rfl, rfl,
      by decide, rfl⟩, rfl, rfl, rfl⟩
  unfold Token.verify Token.openToken
  rw [hParsed]
  dsimp only
  rw [Token.Envelope.decrypt_eq, Token.Envelope.body, hHeader]
  dsimp only
  rw [Token.Envelope.decryptGcm, hTag, hIv]
  rfl

/-- So the request that bears it is broken off. -/
theorem breaksOff_vectorlessRequest : BreaksOff sampleGate vectorlessRequest := by
  have hBearable : Token.IsBearable vectorlessToken.toList :=
    ⟨by decide, Text.forall_of_all (by decide)⟩
  have hHeader : String.ofList
      ("Bearer".toList ++ ([' '] ++ (vectorlessToken.toList ++ []))) =
        "Bearer " ++ vectorlessToken := by
    decide
  refine ⟨_, _, Credential.find_of_bears hBearable (.header [] "Bearer".toList [' '] []
    (by simp) (by simp) (by decide) ?_), .inr ?_⟩
  · rw [List.nil_append, hHeader]
    rfl
  · rw [String.ofList_toList]
    exact (Token.verify_panics_iff _ _).mp ⟨_, verify_vectorlessToken⟩

/-- Anyone can break verification off, and the request is answered with 500. -/
theorem vectorless_token_panics :
    Token.verify sampleGate.key vectorlessToken 1700000000 =
        .error (.panic "an IV is required for this cipher") ∧
      (∃ panic, ∀ rest, authorize sampleGate .bearer vectorlessRequest .fresh rest =
        .done (.error panic)) ∧
      ∃ response, ((Site.Server.mk (Site.application sampleGate) (some (.ofSeconds 30))).receive
        (sampleWorld .zero) .stays [] vectorlessRequest (.fresh ())).1 = .response response ∧
        response.status = 500 := by
  refine ⟨verify_vectorlessToken, authorize_of_breaksOff _ breaksOff_vectorlessRequest, ?_⟩
  have hSmall : Site.isTooLarge vectorlessRequest = false := rfl
  have hTenant : ((tenantFor sampleGate vectorlessRequest).run (sampleWorld .zero)
      (some (.ofSeconds 30)) (.fresh ())).ending = .finished (.ok ⟨"t1", "acme"⟩) :=
    rfl
  obtain ⟨panic, hPanic⟩ := run_apply_of_breaksOff breaksOff_vectorlessRequest hTenant rfl
    (Site.readOnly Site.me)
  rw [Site.Server.receive_of_finished rfl hSmall hPanic]
  exact ⟨_, rfl, Site.complete_status ..⟩

end Pipeline

end Gatehouse
