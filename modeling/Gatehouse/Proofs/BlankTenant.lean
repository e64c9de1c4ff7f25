import Gatehouse.Proofs.QuotaHeaders

/-! Blank tenant ids. A transaction is bound to the id that the dispatcher has for the host of its
request, and nobody looks at that id before. The bearer of a token is still never served for a blank
one, because no token for a blank tenant is accepted. Everyone else is. -/
namespace Gatehouse

/-- No token is accepted whose tenant is blank. -/
theorem Token.not_isBlankText_of_verify {key : Token.Key} {token : String} {now : Int}
    {claims : Token.Claims} (h : Token.verify key token now = .ok claims) :
    Text.isBlankText claims.tenantId.toList = false := by
  obtain ⟨payload, -, hRead⟩ := exists_of_bind_ok h
  obtain ⟨stated, hChecked⟩ : ∃ stated : Token.Claims, stated.check now = .ok claims := by
    split at hRead
    · cases hRead
    · next stated _ => exact ⟨stated, hRead⟩
  unfold Token.Claims.check at hChecked
  split at hChecked
  · cases hChecked
  · next hVisible =>
    split at hChecked
    · cases hChecked
    · split at hChecked
      · cases hChecked
      · cases hChecked
        exact Bool.eq_false_iff.mpr hVisible

namespace Pipeline

variable {σ : Type} {world : World σ} {deadline : Option Duration} {gate : Gate} {access : Access}
  {handler : Handler} {request : Http.Request} {scene : Scene σ}

/-- Verified claims never name a blank tenant. -/
theorem not_isBlankText_of_shows {claims : Token.Claims} (h : Shows gate request claims) :
    Text.isBlankText claims.tenantId.toList = false := by
  obtain ⟨text, source, -, hVerified⟩ := h
  unfold verifyToken at hVerified
  cases hTime : timeOf request with
  | error panic =>
      rw [hTime] at hVerified
      cases hVerified
  | ok now =>
      simp only [hTime, Except.bind] at hVerified
      split at hVerified
      · next shown hVerify =>
        cases hVerified
        exact Token.not_isBlankText_of_verify hVerify
      · cases hVerified
      · cases hVerified

/-! ## Who is served for a blank tenant -/

/-- The dispatcher has this id for the host of the request. -/
def ResolvesTo (world : World σ) (deadline : Option Duration) (gate : Gate) (request : Http.Request)
    (scene : Scene σ) (id : String) : Prop :=
  ∃ label, Tenant.requestLabel? request.headers request.target = some label ∧
    (finding world deadline gate label scene).ending = .finished (.ok id)

/-- The request was counted, and the limiter lets it pass. -/
def LetPass (gate : Gate) (request : Http.Request) (trace : List Entry) : Prop :=
  ∃ reply, .answered (counting gate request) reply ∈ trace ∧
    (admissionOf gate.limiter reply).isAllowed = true

/-- An answer of the stages before the isolation stage: the client is told that it is not served,
or verifying its token or telling its quota has come to a panic. -/
def TurnedAway (answer : Answer) : Prop :=
  (∃ status, status ∈ [401, 429, 503] ∧ HasStatus answer status) ∨ ∃ panic, answer = .error panic

/-- An answer with one of these statuses turns the request away; so does a quota that cannot be
told. -/
theorem TellsStatus.turnedAway {admission : RateLimit.Admission} {answer : Answer} {status : Nat}
    (h : TellsStatus request admission answer status) (hStatus : status ∈ [401, 429, 503]) :
    TurnedAway answer :=
  h.hasStatus_or.imp_left fun hAnswer => ⟨status, hStatus, hAnswer⟩

/-- Nobody is entitled to act for a blank tenant, for the claims would have to name it. -/
theorem not_entitled_of_blank {tenant : Tenant} {claims : Option Token.Claims}
    (hBlank : Text.isBlankText tenant.id.toList = true) :
    ¬ Entitled gate request tenant .bearer claims := by
  rintro ⟨shown, -, hShows, hTenant⟩
  rw [← hTenant, not_isBlankText_of_shows hShows] at hBlank
  cases hBlank

/-- A request is resolved to one id at most. -/
theorem ResolvesTo.eq {first second : String}
    (hFirst : ResolvesTo world deadline gate request scene first)
    (hSecond : ResolvesTo world deadline gate request scene second) : first = second := by
  obtain ⟨label, hLabel, hFound⟩ := hFirst
  obtain ⟨other, hOther, hAlso⟩ := hSecond
  cases hLabel.symm.trans hOther
  cases hFound.symm.trans hAlso
  rfl

theorem Resolves.resolvesTo {tenant : Tenant} {lookups : List Entry}
    (h : Resolves world deadline gate request scene tenant lookups) :
    ResolvesTo world deadline gate request scene tenant.id := by
  obtain ⟨label, hLabel, -, hFound, -⟩ := h
  exact ⟨label, hLabel, hFound⟩

theorem isLookup_of_finding {label : List Char} :
    ∀ call ∈ callsOf (exchanges (finding world deadline gate label scene).trace), IsLookup call := by
  obtain ⟨hCalls, -, -⟩ :=
    (obeys_find gate.tenants (String.ofList label)).run world deadline scene trivial
  intro call hCall
  rw [callsOf_exchanges, List.mem_filter] at hCall
  exact (hCalls call hCall.1).choose_spec.1

theorem Resolves.isLookup {tenant : Tenant} {lookups : List Entry}
    (h : Resolves world deadline gate request scene tenant lookups) :
    ∀ call ∈ callsOf lookups, IsLookup call := by
  obtain ⟨label, -, -, -, rfl⟩ := h
  exact isLookup_of_finding

/-! ## Begun and let pass -/

/-- Whether a transaction was begun shows in the exchanges alone. -/
theorem begin_mem_exchanges_iff (trace : List Entry) :
    .begin ∈ callsOf (exchanges trace) ↔ .begin ∈ callsOf trace := by
  rw [callsOf_exchanges, List.mem_filter]
  exact and_iff_left rfl

theorem letPass_exchanges_iff (trace : List Entry) :
    LetPass gate request (exchanges trace) ↔ LetPass gate request trace := by
  unfold LetPass exchanges
  simp only [List.mem_filter]
  exact exists_congr fun reply => and_congr_left fun _ => and_iff_left rfl

variable (gate request) in
/-- Lookups neither begin a transaction nor let a request pass. -/
theorem not_begun_of_lookups {lookups : List Entry}
    (h : ∀ call ∈ callsOf lookups, IsLookup call) :
    .begin ∉ callsOf lookups ∧ ¬ LetPass gate request lookups :=
  ⟨fun hBegin => h _ hBegin, fun ⟨_, hReply, _⟩ => h _ (mem_callsOf_of_answered hReply)⟩

theorem letPass_append_iff (first second : List Entry) :
    LetPass gate request (first ++ second) ↔
      LetPass gate request first ∨ LetPass gate request second := by
  simp only [LetPass, List.mem_append, or_and_right, exists_or]

/-- What was asked after the lookups decides. -/
theorem begun_iff_letPass_of_lookups {lookups rest : List Entry}
    (h : ∀ call ∈ callsOf lookups, IsLookup call)
    (hRest : .begin ∈ callsOf rest ↔ LetPass gate request rest) :
    .begin ∈ callsOf (lookups ++ rest) ↔ LetPass gate request (lookups ++ rest) := by
  obtain ⟨hBegin, hPass⟩ := not_begun_of_lookups gate request h
  rw [callsOf_append, List.mem_append, letPass_append_iff, hRest]
  simp [hBegin, hPass]

/-- A reply that has let the request pass, with a transaction begun after it. -/
theorem begun_iff_letPass_of_counts {reply : CountReply} {rest : List Entry}
    (hCounts : (admissionOf gate.limiter reply).isAllowed = true) (hBegin : .begin ∈ callsOf rest) :
    .begin ∈ callsOf (.answered (counting gate request) reply :: rest) ↔
      LetPass gate request (.answered (counting gate request) reply :: rest) :=
  iff_of_true (List.mem_cons_of_mem _ hBegin) ⟨reply, List.mem_cons_self .., hCounts⟩

/-- A reply that has not let the request pass. -/
theorem begun_iff_letPass_of_not_counts {reply : CountReply}
    (hCounts : (admissionOf gate.limiter reply).isAllowed = false) :
    .begin ∈ callsOf [.answered (counting gate request) reply] ↔
      LetPass gate request [.answered (counting gate request) reply] := by
  refine iff_of_false (by simp) ?_
  rintro ⟨other, hReply, hAllowed⟩
  cases List.mem_singleton.mp hReply
  rw [hCounts] at hAllowed
  cases hAllowed

/-- A strict limiter allows nobody whom it has not counted. -/
theorem not_allowed_of_uncounted {reply : CountReply}
    (hReply : ∀ decision, reply ≠ some (.ok decision)) (hMode : gate.limiter.failMode = .strict) :
    (admissionOf gate.limiter reply).isAllowed = false := by
  rcases admissionOf_cases gate.limiter reply with ⟨decision, hDecided⟩ | ⟨-, hAdmission⟩
  · exact (hReply decision hDecided).elim
  · rw [hAdmission, hMode]
    rfl

/-- A public request that is halted has got to the database just if it was let pass. -/
theorem Halted.begun_iff_letPass {ending : Ending Answer} {asked : List Entry}
    (h : Halted world deadline gate .everyone request scene ending asked) :
    .begin ∈ callsOf asked ↔ LetPass gate request asked := by
  cases h with
  | hostless => exact iff_of_false (by simp) nofun
  | lookupDropped =>
      obtain ⟨hBegin, hPass⟩ := not_begun_of_lookups gate request isLookup_of_finding
      exact iff_of_false hBegin hPass
  | unresolved =>
      obtain ⟨hBegin, hPass⟩ := not_begun_of_lookups gate request isLookup_of_finding
      exact iff_of_false hBegin hPass
  | countDropped tenant lookups hResolves =>
      exact begun_iff_letPass_of_lookups hResolves.isLookup
        (iff_of_false (by simp) (by simp [LetPass]))
  | denied tenant lookups hResolves decision hDenied =>
      exact begun_iff_letPass_of_lookups hResolves.isLookup
        (begun_iff_letPass_of_not_counts hDenied)
  | uncounted tenant lookups hResolves reply hReply hMode =>
      exact begun_iff_letPass_of_lookups hResolves.isLookup
        (begun_iff_letPass_of_not_counts (not_allowed_of_uncounted hReply hMode))
  | unauthorized tenant lookups hResolves reply hCounts hAccess => cases hAccess
  | brokenOff tenant lookups hResolves reply hCounts hAccess => cases hAccess
  | beginDropped tenant lookups reply claims hPasses =>
      exact begun_iff_letPass_of_lookups hPasses.resolves.isLookup
        (begun_iff_letPass_of_counts hPasses.counts (by simp))
  | unbegun tenant lookups reply claims hPasses =>
      exact begun_iff_letPass_of_lookups hPasses.resolves.isLookup
        (begun_iff_letPass_of_counts hPasses.counts (by simp))
  | bindDropped tenant lookups reply claims hPasses =>
      exact begun_iff_letPass_of_lookups hPasses.resolves.isLookup
        (begun_iff_letPass_of_counts hPasses.counts (by simp))
  | rollbackDropped tenant lookups reply claims hPasses =>
      exact begun_iff_letPass_of_lookups hPasses.resolves.isLookup
        (begun_iff_letPass_of_counts hPasses.counts (by simp))
  | unbound tenant lookups reply claims hPasses =>
      exact begun_iff_letPass_of_lookups hPasses.resolves.isLookup
        (begun_iff_letPass_of_counts hPasses.counts (by simp))

variable (world deadline gate handler request scene) in
/-- An operation for everyone has its transaction begun just if the limiter lets the request pass. -/
theorem begun_iff_letPass :
    let outcome := (apply gate .everyone handler request).run world deadline scene
    .begin ∈ callsOf outcome.trace ↔ LetPass gate request outcome.trace := by
  intro outcome
  rw [← begin_mem_exchanges_iff, ← letPass_exchanges_iff]
  rcases run_apply world deadline gate .everyone request scene with
    ⟨outcome, hRun, hHalted⟩ | ⟨tenant, lookups, reply, claims, entry, hPasses, hServes⟩
  · rw [← hRun handler] at hHalted
    exact hHalted.begun_iff_letPass
  · obtain ⟨-, after, hAsked, -⟩ := hServes handler
    rw [hAsked, askedBefore, List.append_assoc, List.append_assoc]
    exact begun_iff_letPass_of_lookups hPasses.resolves.isLookup
      (begun_iff_letPass_of_counts hPasses.counts (by simp))

/-! ## The bearer of a token -/

/-- The bearer of a token does not get past the stages before the isolation stage. -/
theorem not_passes_of_blank {id : String}
    (hResolves : ResolvesTo world deadline gate request scene id)
    (hBlank : Text.isBlankText id.toList = true) {tenant : Tenant} {lookups : List Entry}
    {reply : CountReply} {claims : Option Token.Claims} :
    ¬ Passes world deadline gate .bearer request scene tenant lookups reply claims := by
  intro hPasses
  obtain rfl := hPasses.resolves.resolvesTo.eq hResolves
  exact not_entitled_of_blank hBlank hPasses.entitled

theorem begin_not_mem_of_lookups {lookups rest : List Entry}
    (h : ∀ call ∈ callsOf lookups, IsLookup call) (hRest : .begin ∉ callsOf rest) :
    .begin ∉ callsOf (lookups ++ rest) := by
  rw [callsOf_append, List.mem_append]
  exact not_or.mpr ⟨fun hBegin => h _ hBegin, hRest⟩

/-- A request for a blank tenant that is halted does not get to the database. -/
theorem Halted.turnedAway {ending : Ending Answer} {asked : List Entry}
    (h : Halted world deadline gate .bearer request scene ending asked) {id : String}
    (hResolves : ResolvesTo world deadline gate request scene id)
    (hBlank : Text.isBlankText id.toList = true) :
    .begin ∉ callsOf asked ∧ ∀ answer, ending = .finished answer → TurnedAway answer := by
  obtain ⟨found, hFound, hEnding⟩ := hResolves
  have hPassed {tenant lookups reply claims} :
      ¬ Passes world deadline gate .bearer request scene tenant lookups reply claims :=
    not_passes_of_blank ⟨found, hFound, hEnding⟩ hBlank
  cases h with
  | hostless hLabel => cases hLabel.symm.trans hFound
  | lookupDropped label hLabel holds hDropped =>
      cases hLabel.symm.trans hFound
      cases hDropped.symm.trans hEnding
  | unresolved label hLabel error hFailed =>
      cases hLabel.symm.trans hFound
      cases hFailed.symm.trans hEnding
  | countDropped tenant lookups hResolves =>
      exact ⟨begin_not_mem_of_lookups hResolves.isLookup (by simp), nofun⟩
  | denied tenant lookups hResolves decision hDenied answer hStatus =>
      refine ⟨begin_not_mem_of_lookups hResolves.isLookup (by simp), ?_⟩
      rintro _ ⟨⟩
      exact hStatus.turnedAway (by simp)
  | uncounted tenant lookups hResolves reply hReply hMode hStatus =>
      refine ⟨begin_not_mem_of_lookups hResolves.isLookup (by simp), ?_⟩
      rintro _ ⟨⟩
      exact .inl ⟨503, by simp, hStatus⟩
  | unauthorized tenant lookups hResolves reply hCounts hAccess reason hReason answer hAnswer
      hStatus =>
      refine ⟨begin_not_mem_of_lookups hResolves.isLookup (by simp), ?_⟩
      rintro _ ⟨⟩
      exact hStatus.turnedAway (by simp)
  | brokenOff tenant lookups hResolves reply hCounts hAccess text source hFound panic =>
      refine ⟨begin_not_mem_of_lookups hResolves.isLookup (by simp), ?_⟩
      rintro _ ⟨⟩
      exact .inr ⟨panic, rfl⟩
  | beginDropped tenant lookups reply claims hPasses => exact (hPassed hPasses).elim
  | unbegun tenant lookups reply claims hPasses => exact (hPassed hPasses).elim
  | bindDropped tenant lookups reply claims hPasses => exact (hPassed hPasses).elim
  | rollbackDropped tenant lookups reply claims hPasses => exact (hPassed hPasses).elim
  | unbound tenant lookups reply claims hPasses => exact (hPassed hPasses).elim

variable (handler) in
/-- Behind a bearer token a blank tenant never gets to the database. -/
theorem turnedAway_of_blank {id : String}
    (hResolves : ResolvesTo world deadline gate request scene id)
    (hBlank : Text.isBlankText id.toList = true) :
    let outcome := (apply gate .bearer handler request).run world deadline scene
    .begin ∉ callsOf outcome.trace ∧
      ∀ answer, outcome.ending = .finished answer → TurnedAway answer := by
  intro outcome
  rcases run_apply world deadline gate .bearer request scene with
    ⟨outcome, hRun, hHalted⟩ | ⟨tenant, lookups, reply, claims, entry, hPasses, -⟩
  · rw [← hRun handler] at hHalted
    rw [← begin_mem_exchanges_iff]
    exact hHalted.turnedAway hResolves hBlank
  · exact (not_passes_of_blank hResolves hBlank hPasses).elim

/-- What a transaction is bound to is the id that the dispatcher has for the host, and nothing else
keeps a blank one out than a token that has to be shown. Where the id is blank, a transaction is
begun just if the operation is for everyone and the limiter lets the request pass; the bearer of a
token is turned away before. -/
theorem begun_for_blank_iff (world : World σ) (deadline : Option Duration) (gate : Gate)
    (access : Access) (handler : Handler) (request : Http.Request) (scene : Scene σ) :
    let outcome := (apply gate access handler request).run world deadline scene
    (∀ name value, .bind name value ∈ callsOf outcome.trace →
      name = gate.tenantSetting ∧ ResolvesTo world deadline gate request scene value) ∧
    ∀ id, ResolvesTo world deadline gate request scene id → Text.isBlankText id.toList = true →
      (.begin ∈ callsOf outcome.trace ↔
        access = .everyone ∧ LetPass gate request outcome.trace) ∧
      (access = .bearer →
        ∀ answer, outcome.ending = .finished answer → TurnedAway answer) := by
  refine ⟨fun name value hBind => bind_of_apply hBind, fun id hResolves hBlank => ?_⟩
  cases access with
  | everyone =>
      refine ⟨?_, nofun⟩
      simpa using begun_iff_letPass world deadline gate handler request scene
  | bearer =>
      obtain ⟨hBegin, hAway⟩ := turnedAway_of_blank handler hResolves hBlank
      exact ⟨iff_of_false hBegin nofun, fun _ => hAway⟩

/-- Surroundings in which the directory has this id for every host. -/
def directoryWorld (id : String) : World Unit
  | .lookup _, _ => (.now (.ok id), ())
  | call, state => sampleWorld .zero call state

/-- The sample request, behind a bearer token and in the open. -/
theorem blank_bearer_turned_away :
    let outcome (access : Access) := (apply sampleGate access silentHandler sampleRequest).run
      (directoryWorld " ") none (.fresh ())
    ResolvesTo (directoryWorld " ") none sampleGate sampleRequest (.fresh ()) " " ∧
      Text.isBlankText " ".toList = true ∧ .begin ∈ callsOf (outcome .everyone).trace ∧
      .begin ∉ callsOf (outcome .bearer).trace := by
  intro outcome
  have hResolves : ResolvesTo (directoryWorld " ") none sampleGate sampleRequest (.fresh ()) " " :=
    ⟨_, rfl, rfl⟩
  have hBlank : Text.isBlankText " ".toList = true := by decide
  have hEveryone := (begun_for_blank_iff (directoryWorld " ") none sampleGate .everyone
    silentHandler sampleRequest (.fresh ())).2 " " hResolves hBlank
  have hBearer := (begun_for_blank_iff (directoryWorld " ") none sampleGate .bearer silentHandler
    sampleRequest (.fresh ())).2 " " hResolves hBlank
  have hPass : LetPass sampleGate sampleRequest (outcome .everyone).trace :=
    ⟨_, List.mem_of_getElem? (i := 1) rfl, rfl⟩
  exact ⟨hResolves, hBlank, hEveryone.1.mpr ⟨rfl, hPass⟩, fun hBegin => nomatch (hBearer.1.mp hBegin).1⟩

/-- An operation for everyone is served on a transaction that is bound to a blank tenant, and what
it has done there is committed. -/
theorem blank_tenant_bound :
    let outcome := (apply sampleGate .everyone silentHandler sampleRequest).run
      (directoryWorld " ") none (.fresh ())
    operations outcome.trace = [.begin, .bind "app.tenant" " ", .commit] ∧
      ∃ response, outcome.ending = .finished (.ok response) ∧ response.status = 204 :=
  ⟨rfl, _, rfl, rfl⟩

end Pipeline

end Gatehouse
