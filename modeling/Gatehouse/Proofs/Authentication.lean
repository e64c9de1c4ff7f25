import Gatehouse.Proofs.Bearing
import Gatehouse.Proofs.QuotaHeaders
import Gatehouse.Proofs.RoundTrip

/-! Authentication from end to end. The bearer of an issued token who asks the service about
themselves is turned away for the first of three reasons that holds: the token has expired, it is
not valid yet, or it is for another tenant than that of the host. Where none holds, they are told
what was issued to them. None of this reaches them where the limiter cannot tell its quota. -/
namespace Gatehouse

variable {σ : Type} {world : World σ} {deadline : Option Duration} {gate : Gate}
    {request : Http.Request} {scene : Scene σ}

namespace Pipeline

/-! ## Judging a token -/

/-- What a tenant makes of the bearer of a token, given what verification says of the token. -/
def judgement (tenant : String) :
    Except Token.Error Token.Claims → Except UnauthorizedReason Token.Claims
  | .error error => .error (tokenReason error)
  | .ok claims => if tenant = claims.tenantId then .ok claims else .error .tenantMismatch

section Judgement

variable {text : List Char} {source : CredentialSource}
    {verdict : Except Token.Error Token.Claims} {tenant : Tenant}

/-- The reason for which a request is refused is the reason that its verdict gives. -/
theorem judgement_of_unauthorized
    (hFind : Credential.find request.headers gate.cookieFallback = .ok (text, source))
    (hVerified : verifyToken gate request (String.ofList text) = .ok verdict)
    {reason : UnauthorizedReason} (h : Unauthorized gate request tenant reason) :
    judgement tenant.id verdict = .error reason := by
  cases h with
  | credential error h =>
      rw [hFind] at h
      cases h
  | token other origin error hOther hError =>
      rw [hFind] at hOther
      cases hOther
      rw [hVerified] at hError
      cases hError
      rfl
  | tenant claims hShows h =>
      obtain ⟨other, origin, hOther, hClaims⟩ := hShows
      rw [hFind] at hOther
      cases hOther
      rw [hVerified] at hClaims
      cases hClaims
      exact if_neg h

/-- A request is let through with the claims that its verdict gives. -/
theorem judgement_of_entitled
    (hFind : Credential.find request.headers gate.cookieFallback = .ok (text, source))
    (hVerified : verifyToken gate request (String.ofList text) = .ok verdict)
    {shown : Option Token.Claims} (h : Entitled gate request tenant .bearer shown) :
    ∃ claims, shown = some claims ∧ judgement tenant.id verdict = .ok claims := by
  obtain ⟨claims, hShown, ⟨other, origin, hOther, hClaims⟩, hTenant⟩ := h
  rw [hFind] at hOther
  cases hOther
  rw [hVerified] at hClaims
  cases hClaims
  exact ⟨claims, hShown, if_pos hTenant.symm⟩

end Judgement

/-- A token of the service is verified by its claims, unless its tenant is blank. -/
theorem verifyToken_issue {iv : Bytes} (hIv : iv.length = 12) {claims : Token.Claims}
    (hFits : claims.Fits) (hTenant : Text.trim claims.tenantId.toList ≠ [])
    (hTime : timeOf request = .ok request.now) :
    verifyToken gate request (Token.issue gate.key iv claims) = .ok (
      if claims.expiresAt ≤ request.now / 1000 then .error .expired
      else if request.now / 1000 < claims.notBefore then .error .notYetValid
      else .ok claims) := by
  have hBlank : ¬ Text.isBlankText claims.tenantId.toList = true := by
    rwa [Text.isBlankText_iff]
  rw [verifyToken, hTime]
  dsimp only [Except.bind]
  rw [Token.verify_issue hIv gate.key hFits, Token.Claims.check, if_neg hBlank]
  split_ifs <;> rfl

/-! ## Untroubled requests -/

/-- What goes wrong with a request in the surroundings of the service: it is cut off while it waits,
the limiter turns it down, or the database does not begin, bind or commit its transaction. -/
inductive Trouble (gate : Gate) (request : Http.Request) : Entry → Prop
  | cutOff (call : Call) : Trouble gate request (.dropped call)
  | barred (reply : CountReply) (h : (admissionOf gate.limiter reply).isAllowed = false) :
      Trouble gate request (.answered (counting gate request) reply)
  | unbegun (error : Database.Error) : Trouble gate request (.answered .begin (.error error))
  | unbound (name value : String) (error : Database.Error) :
      Trouble gate request (.answered (.bind name value) (.error error))
  | uncommitted (error : Database.Error) :
      Trouble gate request (.answered .commit (.error error))

/-- The request was counted, and nothing has gone wrong with it. -/
structure Untroubled (gate : Gate) (request : Http.Request) (trace : List Entry) : Prop where
  counted : counting gate request ∈ callsOf trace
  smooth : ∀ entry ∈ trace, ¬ Trouble gate request entry

theorem operations_exchanges (trace : List Entry) :
    operations (exchanges trace) = operations trace := by
  rw [operations, operations, callsOf_exchanges, List.filter_filter]
  refine List.filter_congr fun call _ => ?_
  cases call <;> rfl

/-- Looking a tenant up is no operation on a transaction. -/
theorem Resolves.operations_lookups {tenant : Tenant} {lookups : List Entry}
    (h : Resolves world deadline gate request scene tenant lookups) : operations lookups = [] := by
  obtain ⟨label, -, -, -, rfl⟩ := h
  obtain ⟨hCalls, -, -⟩ := (preliminary_find gate.tenants (String.ofList label)).run world deadline
    scene trivial
  rw [operations_exchanges]
  refine operations_of_preliminary fun call hCall => ?_
  obtain ⟨-, hPreliminary, -⟩ := hCalls call hCall
  exact hPreliminary

/-- The tenant that a request is resolved to is that of its host label. -/
theorem Resolves.tenant_eq {tenant : Tenant} {lookups : List Entry}
    (h : Resolves world deadline gate request scene tenant lookups) {label : List Char}
    (hLabel : Tenant.requestLabel? request.headers request.target = some label) {id : String}
    (hFound : (finding world deadline gate label scene).ending = .finished (.ok id)) :
    tenant = ⟨id, String.ofList label⟩ := by
  obtain ⟨other, hOther, hDomain, hId, -⟩ := h
  obtain rfl : label = other := Option.some.inj (hLabel.symm.trans hOther)
  rw [hFound] at hId
  cases tenant
  cases hDomain
  cases hId
  rfl

/-! ## Runs of untroubled requests -/

section Running

variable {label : List Char} {id : String} {text : List Char} {source : CredentialSource}
    {verdict : Except Token.Error Token.Claims}

/-- The dispatcher's answer for a request is the one for its label. -/
theorem ending_ne_of_found
    (hLabel : Tenant.requestLabel? request.headers request.target = some label)
    (hFound : (finding world deadline gate label scene).ending = .finished (.ok id))
    {other : List Char} (hOther : Tenant.requestLabel? request.headers request.target = some other)
    {error : Tenant.LookupError} :
    (finding world deadline gate other scene).ending ≠ .finished (.error error) := by
  obtain rfl : label = other := Option.some.inj (hLabel.symm.trans hOther)
  simp [hFound]

/-- A request with which nothing goes wrong is halted for lack of authorization only. -/
theorem Halted.unauthorized_of_smooth
    (hLabel : Tenant.requestLabel? request.headers request.target = some label)
    (hFound : (finding world deadline gate label scene).ending = .finished (.ok id))
    (hFind : Credential.find request.headers gate.cookieFallback = .ok (text, source))
    (hVerified : verifyToken gate request (String.ofList text) = .ok verdict)
    {answer : Answer} {asked : List Entry}
    (hSmooth : ∀ entry ∈ asked, ¬ Trouble gate request entry)
    (h : Halted world deadline gate .bearer request scene (.finished answer) asked) :
    ∃ reply reason, Replied gate request asked reply ∧ judgement id verdict = .error reason ∧
      answer = tellQuota gate request (admissionOf gate.limiter reply)
        (Answer.refuse (.unauthorized reason)) ∧
      operations asked = [] := by
  cases h with
  | hostless hNone => simp [hLabel] at hNone
  | unresolved missing hMissing error hError =>
      exact (ending_ne_of_found hLabel hFound hMissing hError).elim
  | denied tenant lookups hResolves decision hDenied =>
      exact (hSmooth _ (by simp) (.barred (some (.ok decision)) hDenied)).elim
  | uncounted tenant lookups hResolves reply hReply hMode =>
      refine (hSmooth _ (by simp) (.barred reply ?_)).elim
      rcases admissionOf_cases gate.limiter reply with ⟨decision, hDecision⟩ | ⟨-, hAdmission⟩
      · exact (hReply decision hDecision).elim
      · rw [hAdmission, hMode]
        rfl
  | unauthorized tenant lookups hResolves reply hCounts hAccess reason hReason answer hAnswer =>
      obtain rfl := hResolves.tenant_eq hLabel hFound
      refine ⟨reply, reason, replied_of_uncounted hResolves.uncounted uncounted_nil reply,
        judgement_of_unauthorized hFind hVerified hReason, hAnswer, ?_⟩
      rw [operations_append, hResolves.operations_lookups]
      rfl
  | brokenOff tenant lookups hResolves reply hCounts hAccess other origin hOtherFind panic hPanic =>
      rw [hFind] at hOtherFind
      cases hOtherFind
      rw [hVerified] at hPanic
      cases hPanic
  | unbegun tenant lookups reply claims hPasses error =>
      exact (hSmooth _ (by simp) (.unbegun error)).elim
  | unbound tenant lookups reply claims hPasses error =>
      exact (hSmooth _ (by simp)
        (.unbound gate.tenantSetting tenant.id error)).elim

/-- A handler that has answered, and not with an error, is followed by a commit. -/
theorem Served.eq_commit {admission : RateLimit.Admission} {tenant : String}
    {handled : Outcome σ Answer}
    {response : Http.Response} (hHandled : handled.ending = .finished (.ok response))
    (hGood : response.status < 400) {answer : Answer} {after : List Entry}
    (hSmooth : ∀ entry ∈ after, ¬ Trouble gate request entry)
    (h : Served gate request admission tenant handled (.finished answer) after) :
    answer = tellQuota gate request admission (.ok response) ∧
      after = [.answered .commit (.ok ())] := by
  cases h with
  | committed other hOther =>
      rw [hHandled] at hOther
      cases hOther
      exact ⟨rfl, rfl⟩
  | uncommitted other hOther hOtherGood error =>
      exact (hSmooth _ (by simp) (.uncommitted error)).elim
  | rolledBack other hOther hBad =>
      rw [hHandled] at hOther
      cases hOther
      omega
  | panicked panic hPanic =>
      rw [hHandled] at hPanic
      cases hPanic

/-- No call of an untroubled request is cut off. -/
theorem Untroubled.inTime {trace : List Entry} (h : Untroubled gate request trace) (call : Call) :
    .dropped call ∉ trace :=
  fun hCall => h.smooth _ hCall (.cutOff call)

/-- What the bearer of a token is answered, given how it is judged and how the handler responds to
its claims. -/
def answerTo (respond : Token.Claims → Http.Response) :
    Except UnauthorizedReason Token.Claims → Http.Response
  | .error reason => (Refusal.unauthorized reason).response
  | .ok claims => respond claims

/-- A transaction is begun only for claims that were accepted. -/
def operationsFor (setting tenant : String) : Except UnauthorizedReason Token.Claims → List Call
  | .error _ => []
  | .ok _ => [.begin, .bind setting tenant, .commit]

/-- The transaction around a handler counts nothing. -/
theorem uncounted_committed (setting tenant : String) :
    Uncounted [.answered .begin (.ok ()), .answered (.bind setting tenant) (.ok ()),
      .answered .commit (.ok ())] := by
  intro call hCall
  simp only [callsOf_answered, callsOf_nil, List.mem_cons, List.not_mem_nil, or_false] at hCall
  rcases hCall with rfl | rfl | rfl <;> exact id

/-- What comes of a request in no trouble: its handler answers it with the claims of its token, and
that is committed, or it is turned away and nothing is begun. In either case it was counted once, and
the quota is told in the answer as that was replied to. The handler is one that answers at once, and
not with an error. -/
theorem run_apply_of_untroubled
    (hLabel : Tenant.requestLabel? request.headers request.target = some label)
    (hFound : (finding world deadline gate label scene).ending = .finished (.ok id))
    (hFind : Credential.find request.headers gate.cookieFallback = .ok (text, source))
    (hVerified : verifyToken gate request (String.ofList text) = .ok verdict)
    {handler : Handler} {respond : Token.Claims → Http.Response}
    (hHandler : ∀ claims, handler request ⟨some ⟨id, String.ofList label⟩, some claims, some id⟩ =
      .done (.ok (respond claims)))
    (hGood : ∀ claims, (respond claims).status < 400)
    (hUntroubled : Untroubled gate request
      ((apply gate .bearer handler request).run world deadline scene).trace) :
    let outcome := (apply gate .bearer handler request).run world deadline scene
    ∃ reply, Replied gate request outcome.trace reply ∧
      outcome.ending = .finished (tellQuota gate request (admissionOf gate.limiter reply)
        (.ok (answerTo respond (judgement id verdict)))) ∧
      operations outcome.trace = operationsFor gate.tenantSetting id (judgement id verdict) := by
  intro outcome
  obtain ⟨answer, hEnding⟩ : ∃ answer, outcome.ending = .finished answer :=
    Program.exists_finished_of_run hUntroubled.inTime
  have hSmooth : ∀ entry ∈ exchanges outcome.trace, ¬ Trouble gate request entry :=
    fun entry hEntry => hUntroubled.smooth entry (List.mem_of_mem_filter hEntry)
  suffices hExchanges : ∃ reply, Replied gate request (exchanges outcome.trace) reply ∧
      outcome.ending = .finished (tellQuota gate request (admissionOf gate.limiter reply)
        (.ok (answerTo respond (judgement id verdict)))) ∧
      operations (exchanges outcome.trace) =
        operationsFor gate.tenantSetting id (judgement id verdict) by
    obtain ⟨reply, hReplied, hEnds, hOperations⟩ := hExchanges
    exact ⟨reply, replied_exchanges_iff.mp hReplied, hEnds,
      (operations_exchanges _).symm.trans hOperations⟩
  rcases run_apply world deadline gate .bearer request scene with
    ⟨halted, hRun, hHalted⟩ | ⟨tenant, lookups, reply, claims, entry, hPasses, hServes⟩
  · obtain rfl : outcome = halted := hRun handler
    rw [hEnding] at hHalted ⊢
    obtain ⟨reply, reason, hReplied, hReason, rfl, hOperations⟩ :=
      hHalted.unauthorized_of_smooth hLabel hFound hFind hVerified hSmooth
    rw [hReason]
    exact ⟨reply, hReplied, rfl, hOperations⟩
  · obtain rfl := hPasses.resolves.tenant_eq hLabel hFound
    obtain ⟨claims, rfl, hJudged⟩ := judgement_of_entitled hFind hVerified hPasses.entitled
    obtain ⟨-, after, hAsked, hServed⟩ := hServes handler
    rw [hHandler] at hAsked hServed
    change Served _ _ _ _ _ outcome.ending _ at hServed
    rw [hEnding] at hServed ⊢
    rw [hJudged]
    rw [hAsked] at hSmooth
    obtain ⟨rfl, rfl⟩ := hServed.eq_commit rfl (hGood claims) fun entry hEntry =>
      hSmooth entry (List.mem_append_right _ hEntry)
    -- The handler asks nothing, so what is asked is known to the last call.
    have hWhole : exchanges outcome.trace = lookups ++ .answered (counting gate request) reply ::
        [.answered .begin (.ok ()), .answered (.bind gate.tenantSetting id) (.ok ()),
          .answered .commit (.ok ())] := by
      rw [hAsked, askedBefore, List.append_assoc, List.append_assoc]
      rfl
    rw [hWhole]
    refine ⟨reply, replied_of_uncounted hPasses.resolves.uncounted (uncounted_committed _ _) reply,
      rfl, ?_⟩
    rw [operations_append, hPasses.resolves.operations_lookups]
    rfl

/-- A request whose tenant was found was counted. -/
theorem Halted.counted
    (hLabel : Tenant.requestLabel? request.headers request.target = some label)
    (hFound : (finding world deadline gate label scene).ending = .finished (.ok id))
    {access : Access} {answer : Answer} {asked : List Entry}
    (h : Halted world deadline gate access request scene (.finished answer) asked) :
    counting gate request ∈ callsOf asked := by
  cases h with
  | hostless hNone => simp [hLabel] at hNone
  | unresolved missing hMissing error hError =>
      exact (ending_ne_of_found hLabel hFound hMissing hError).elim
  | _ => simp

end Running

end Pipeline

/-! ## Asking who one is -/

namespace Site

open Pipeline

/-- The response turns its client away as not authorized, with this code. -/
def Rejects (response : Http.Response) (code : String) : Prop :=
  response.status = 401 ∧ Json.parse? (Bytes.ofText response.body) =
    some (.object [(some "error", .object
      [(some "code", .string (some code)), (some "message", .string (some "unauthorized"))])])

/-- The response tells its client who they are: the user in this role, for this tenant. -/
def Tells (response : Http.Response) (userId : Int) (tenant : Tenant) (role : Token.Role) : Prop :=
  response.status = 200 ∧ Json.parse? (Bytes.ofText response.body) =
    some (.object [(some "user_id", .int userId), (some "tenant_id", .string (some tenant.id)),
      (some "domain_name", .string (some tenant.domain)), (some "role", role.toJson.map some)])

theorem dispatch_me (hPath : request.target.path = "/api/v1/me".toList) :
    dispatch (application gate) request = Pipeline.apply gate .bearer (readOnly me) request := by
  have hHealth : ("/health".toList == "/api/v1/me".toList) = false := by decide
  have hTenant : ("/api/v1/tenant".toList == "/api/v1/me".toList) = false := by decide
  simp only [dispatch, find?, hPath, application, List.find?_cons, hHealth, hTenant,
    beq_self_eq_true]

/-- The handler tells the tenant and the claims that it was shown, and asks for nothing. -/
theorem readOnly_me (hMethod : request.method = "GET") (tenant : Tenant) (claims : Token.Claims)
    (transaction : Option String) :
    readOnly me request ⟨some tenant, some claims, transaction⟩ =
      .done (.ok (.json 200 (meBody tenant claims))) := by
  rw [readOnly, if_pos (by simp [isReading, hMethod])]
  rfl

theorem rejects_of_refusal {response : Http.Response} {reason : UnauthorizedReason}
    (hStatus : response.status = (Refusal.unauthorized reason).response.status)
    (hBody : response.body = (Refusal.unauthorized reason).response.body) :
    Rejects response reason.code :=
  ⟨hStatus, hBody ▸ Json.parse?_render _⟩

theorem tells_of_meBody {response : Http.Response} {tenant : Tenant} {claims : Token.Claims}
    (hStatus : response.status = 200) (hBody : response.body = (meBody tenant claims).render) :
    Tells response claims.userId tenant claims.role :=
  ⟨hStatus, hBody ▸ Json.parse?_render _⟩

/-- The response tells its client of a failure, and nothing more about it. -/
def Fails (response : Http.Response) : Prop :=
  response.status = 500 ∧ response.body = Refusal.internal.response.body

/-- A request in no trouble is not too large, and its client gets the answer of the route, with
headers added to it and a panic turned into a failure. -/
theorem receive_of_untroubled {server : Server} {timeout : Duration}
    (hTimeout : server.timeout = some timeout) (hMethod : request.method = "GET")
    {freshId : Bytes} (hUntroubled : Untroubled gate request
      (server.receive world .stays freshId request scene).2.2) :
    let outcome := (dispatch server.routes request).run world (some timeout) scene
    let received := server.receive world .stays freshId request scene
    Untroubled gate request outcome.trace ∧
      (∃ events : List Event, received.2.2 = outcome.trace ++ events.map .logged) ∧
      ∀ answer, outcome.ending = .finished answer → ∃ sent, received.1 = .response sent ∧
        sent.status = (recovered answer).status ∧ sent.body = (recovered answer).body := by
  have hSmall : isTooLarge request = false := by
    cases hLarge : isTooLarge request with
    | false => rfl
    | true =>
        have hCounted := hUntroubled.counted
        simp [Server.receive, hTimeout, Server.receiveWithin, hLarge] at hCounted
  intro outcome received
  have hShows : outcome.trace <+: received.2.2 :=
    Server.receive_shows hTimeout hSmall scene freshId
  obtain ⟨answer, hEnding⟩ : ∃ answer, outcome.ending = .finished answer :=
    Program.exists_finished_of_run fun call hCall =>
      hUntroubled.inTime call (hShows.subset hCall)
  have hReceived := Server.receive_of_finished hTimeout hSmall hEnding freshId
  refine ⟨⟨?_, fun entry hEntry => hUntroubled.smooth entry (hShows.subset hEntry)⟩,
    ⟨panicEvents answer, by dsimp only [received]; rw [hReceived]⟩, ?_⟩
  · have hCounted := hUntroubled.counted
    rw [hReceived] at hCounted
    simpa using hCounted
  · intro other hOther
    cases hEnding.symm.trans hOther
    dsimp only [received]
    rw [hReceived]
    refine ⟨_, rfl, ?_, ?_⟩
    · rw [complete_status, addRequestId_status]
    · rw [complete_body _ _ (by simp [hMethod]) (by simp [hMethod]), addRequestId_body]

/-! ## Surroundings without trouble -/

/-- The surroundings answer every call at once, in this manner. -/
def AtOnce (fair : Entry → Prop) (world : World σ) : Prop :=
  ∀ call state, ∃ answer after, world call state = (.now answer, after) ∧
    fair (.answered call answer)

/-- Nothing that a program does in such surroundings is cut off, so all of it is in this manner. -/
theorem AtOnce.run {fair : Entry → Prop} (h : AtOnce fair world)
    (hLogged : ∀ event, fair (.logged event)) {α : Type} (p : Program α) {limit : Duration}
    {scene : Scene σ} (hEarly : scene.elapsed ≤ limit.nanoseconds) :
    ∀ entry ∈ (p.run world (some limit) scene).trace, fair entry := by
  induction p generalizing scene with
  | done value => simp [Program.run]
  | log event rest ih =>
      intro entry hEntry
      rcases List.mem_cons.mp hEntry with rfl | hEntry
      · exact hLogged event
      · exact ih hEarly entry hEntry
  | visit change next ih => exact ih scene.handle hEarly
  | ask call holds next ih =>
      obtain ⟨answer, after, hWorld, hFair⟩ := h call scene.world
      have hAsk : scene.ask world (some limit) call =
          .ok (answer, { scene with world := after }) := by
        rw [Scene.ask, hWorld]
        exact if_pos (decide_eq_true hEarly)
      rw [Program.run_ask, hAsk]
      intro entry hEntry
      rcases List.mem_cons.mp hEntry with rfl | hEntry
      · exact hFair
      · have hNext : ({ scene with world := after } : Scene σ).elapsed ≤ limit.nanoseconds := hEarly
        exact ih answer hNext entry hEntry

/-- Where no call takes time, no deadline is missed. -/
theorem AtOnce.exists_finished {fair : Entry → Prop} (h : AtOnce fair world) {α : Type}
    (p : Program α) {limit : Duration} (hEarly : scene.elapsed ≤ limit.nanoseconds) :
    ∃ value, (p.run world (some limit) scene).ending = .finished value := by
  have hAnswered : AtOnce (fun entry => ∀ call, entry ≠ .dropped call) world := by
    intro call state
    obtain ⟨answer, after, hWorld, -⟩ := h call state
    exact ⟨answer, after, hWorld, nofun⟩
  exact Program.exists_finished_of_run fun call hCall =>
    hAnswered.run nofun p hEarly _ hCall call rfl

/-- What holds of all entries in such surroundings also holds of those of a request that is
received. -/
theorem AtOnce.receive {fair : Entry → Prop} (h : AtOnce fair world)
    (hLogged : ∀ event, fair (.logged event)) {server : Server} {timeout : Duration}
    (hTimeout : server.timeout = some timeout) (hSmall : isTooLarge request = false)
    (hEarly : scene.elapsed ≤ timeout.nanoseconds) (freshId : Bytes) :
    ∀ entry ∈ (server.receive world .stays freshId request scene).2.2, fair entry := by
  obtain ⟨answer, hEnding⟩ := h.exists_finished (dispatch server.routes request) hEarly
  rw [Server.receive_of_finished hTimeout hSmall hEnding]
  intro entry hEntry
  rcases List.mem_append.mp hEntry with hEntry | hEntry
  · exact h.run hLogged _ hEarly entry hEntry
  · obtain ⟨event, -, rfl⟩ := List.mem_map.mp hEntry
    exact hLogged event

/-- The surroundings answer every call at once, and with no trouble. -/
def Prompt (gate : Gate) (request : Http.Request) (world : World σ) : Prop :=
  AtOnce (fun entry => ¬ Trouble gate request entry) world

/-- Surroundings that answer at once leave a request in no trouble, once its tenant was found. -/
theorem Prompt.untroubled (h : Prompt gate request world) {timeout : Duration}
    (hEarly : scene.elapsed ≤ timeout.nanoseconds) (hSmall : isTooLarge request = false)
    (hPath : request.target.path = "/api/v1/me".toList) {label : List Char}
    (hLabel : Tenant.requestLabel? request.headers request.target = some label) {id : String}
    (hFound : (finding world (some timeout) gate label scene).ending = .finished (.ok id))
    (freshId : Bytes) :
    Untroubled gate request ((Server.mk (application gate) (some timeout)).receive world .stays
      freshId request scene).2.2 := by
  refine ⟨?_, AtOnce.receive h nofun rfl hSmall hEarly freshId⟩
  obtain ⟨answer, hEnding⟩ :=
    AtOnce.exists_finished h (dispatch (application gate) request) hEarly
  rw [Server.receive_of_finished rfl hSmall hEnding]
  rw [dispatch_me hPath] at hEnding
  have hCounted : counting gate request ∈ callsOf (exchanges
      ((Pipeline.apply gate .bearer (readOnly me) request).run world (some timeout)
        scene).trace) := by
    rcases run_apply world (some timeout) gate .bearer request scene with
      ⟨halted, hRun, hHalted⟩ | ⟨tenant, lookups, reply, claims, entry, -, hServes⟩
    · rw [← hRun (readOnly me), hEnding] at hHalted
      exact hHalted.counted hLabel hFound
    · obtain ⟨-, after, hAsked, -⟩ := hServes (readOnly me)
      simp [hAsked, askedBefore]
  rw [callsOf_exchanges, List.mem_filter] at hCounted
  simpa [dispatch_me hPath] using hCounted.1

/-! ## The bearer of an issued token -/

/-- What a judgement of the claims is to the client: a refusal, or the claims told. -/
def Answers (response : Http.Response) (tenant : Tenant) :
    Except UnauthorizedReason Token.Claims → Prop
  | .error reason => Rejects response reason.code
  | .ok claims => Tells response claims.userId tenant claims.role

/-- A response with the status and the body of an answer answers as it does. -/
theorem answers_of_answerTo {response : Http.Response} {tenant : Tenant}
    {judged : Except UnauthorizedReason Token.Claims}
    (hStatus : response.status =
      (answerTo (fun claims => .json 200 (meBody tenant claims)) judged).status)
    (hBody : response.body =
      (answerTo (fun claims => .json 200 (meBody tenant claims)) judged).body) :
    Answers response tenant judged := by
  cases judged with
  | error reason => exact rejects_of_refusal hStatus hBody
  | ok claims => exact tells_of_meBody hStatus hBody

/-- Whoever asks the service about themselves is answered as their token is judged, if the quota can
be told. -/
theorem me_answers_judgement {timeout : Duration} {freshId : Bytes}
    (hMethod : request.method = "GET") (hPath : request.target.path = "/api/v1/me".toList)
    {label : List Char}
    (hLabel : Tenant.requestLabel? request.headers request.target = some label) {id : String}
    (hFound : (finding world (some timeout) gate label scene).ending = .finished (.ok id))
    {text : List Char} {source : CredentialSource} {verdict : Except Token.Error Token.Claims}
    (hFind : Credential.find request.headers gate.cookieFallback = .ok (text, source))
    (hVerified : verifyToken gate request (String.ofList text) = .ok verdict)
    (hUntroubled : Untroubled gate request ((Server.mk (application gate) (some timeout)).receive
      world .stays freshId request scene).2.2) :
    let received := (Server.mk (application gate) (some timeout)).receive world .stays freshId
      request scene
    ∃ response, received.1 = .response response ∧
      operations received.2.2 = operationsFor gate.tenantSetting id (judgement id verdict) ∧
      (Untold gate request received.2.2 → Fails response) ∧
      (¬ Untold gate request received.2.2 →
        Answers response ⟨id, String.ofList label⟩ (judgement id verdict)) := by
  intro received
  obtain ⟨hRun, ⟨events, hTrace⟩, hAnswers⟩ := receive_of_untroubled rfl hMethod hUntroubled
  rw [dispatch_me hPath] at hRun hAnswers hTrace
  obtain ⟨reply, hReplied, hEnds, hOperations⟩ := run_apply_of_untroubled hLabel hFound hFind
    hVerified (fun claims => readOnly_me hMethod _ claims _) (fun _ => (by decide : 200 < 400)) hRun
  obtain ⟨sent, hSent, hStatus, hBody⟩ := hAnswers _ hEnds
  have hWhole : Replied gate request received.2.2 reply := by
    dsimp only [received]
    rw [hTrace]
    exact (replied_append_events_iff events).mpr hReplied
  obtain ⟨hUntold, hTold⟩ := recovered_tellQuota hWhole
    (answerTo (fun claims => .json 200 (meBody ⟨id, String.ofList label⟩ claims))
      (judgement id verdict))
  refine ⟨sent, hSent, ?_, fun h => ?_, fun h => ?_⟩
  · dsimp only [received]
    rw [hTrace, operations_append, hOperations, operations, callsOf_events]
    exact List.append_nil _
  · exact ⟨hStatus.trans (congrArg _ (hUntold h)), hBody.trans (congrArg _ (hUntold h))⟩
  · exact answers_of_answerTo (hStatus.trans (hTold h).1) (hBody.trans (hTold h).2)

/-- Whoever bears a token that was issued to a user and asks the service about themselves, within
the time of the service and with the limiter and the database on their side, is answered by the
token: it has expired, is not valid yet, or is for another tenant than the one that the dispatcher
has found for the host, looked at in this order; or the answer tells what was issued, and the
host's label in lower case. Only in this case a transaction is begun, and it is committed once.
All this is done also where the store has decided on the request and there is no room in 64 bits
for the time until its full quota is back, but then the answer tells of nothing but a failure. -/
theorem me_answers_issued_token (world : World σ) (timeout : Duration) (gate : Gate)
    (request : Http.Request) (freshId : Bytes) (scene : Scene σ)
    (iv : Bytes) (hIv : iv.length = 12) (userId now : Int) (hUser : IsI64 userId)
    (hNow : IsI64 now) (tenantId : String) (hTenant : Text.trim tenantId.toList ≠ [])
    (role : Token.Role) (hRole : ∀ id, role = .id id → IsI64 id) (lifetime : Token.Lifetime)
    (source : CredentialSource)
    (hBears : Credential.Bears
      (Token.issue gate.key iv (Token.claimsAt userId tenantId role lifetime now)).toList
      request.headers gate.cookieFallback source)
    (hMethod : request.method = "GET") (hPath : request.target.path = "/api/v1/me".toList)
    (hClock : 0 ≤ request.now ∧ request.now ≤ Clock.last)
    (host : List Char) (hHost : Tenant.effectiveHost? request.headers request.target = some host)
    (hLabel : Text.before '.' host ≠ []) (id : String)
    (hFound : (finding world (some timeout) gate (Text.lower (Text.before '.' host)) scene).ending =
      .finished (.ok id))
    (hUntroubled : Untroubled gate request ((Server.mk (application gate) (some timeout)).receive
      world .stays freshId request scene).2.2) :
    let received := (Server.mk (application gate) (some timeout)).receive world .stays freshId
      request scene
    let time := request.now / 1000
    let expiry := max Text.minI64
      (min Text.maxI64 (now + ⌈(lifetime.nanoseconds : ℚ) / 1000000000⌉))
    let untold := ∃ decision,
      .answered (counting gate request) (some (.ok decision)) ∈ received.2.2 ∧
        Overflows request.now decision.resetAfter
    ∃ response, received.1 = .response response ∧ (untold → Fails response) ∧
      if expiry ≤ time then
        (¬ untold → Rejects response "TOKEN_EXPIRED") ∧ operations received.2.2 = []
      else if time < now then
        (¬ untold → Rejects response "TOKEN_NOT_YET_VALID") ∧ operations received.2.2 = []
      else if id ≠ tenantId then
        (¬ untold → Rejects response "TENANT_MISMATCH") ∧ operations received.2.2 = []
      else
        (¬ untold → Tells response userId
          ⟨id, String.ofList (Text.lower (Text.before '.' host))⟩ role) ∧
          operations received.2.2 = [.begin, .bind gate.tenantSetting id, .commit] := by
  intro received time expiry untold
  let claims := Token.claimsAt userId tenantId role lifetime now
  have hExpiry : expiry = claims.expiresAt := by
    dsimp only [expiry, claims]
    rw [← lifetime.seconds_eq_ceil]
    rfl
  have hRequest : Tenant.requestLabel? request.headers request.target =
      some (Text.lower (Text.before '.' host)) := by
    simp [Tenant.requestLabel?, hHost, Tenant.label?, hLabel]
  have hFind := Credential.find_of_bears (Token.isBearable_sealToken ..) hBears
  have hVerified : verifyToken gate request
      (String.ofList (Token.issue gate.key iv claims).toList) = .ok (
        if expiry ≤ time then .error .expired else if time < now then .error .notYetValid
        else .ok claims) := by
    rw [String.ofList_toList, hExpiry]
    exact verifyToken_issue hIv (Token.fits_claimsAt hUser hNow hRole tenantId lifetime) hTenant
      (timeOf_eq_ok hClock)
  obtain ⟨response, hResponse, hOperations, hFails, hAnswer⟩ := me_answers_judgement hMethod hPath
    hRequest hFound hFind hVerified hUntroubled
  rw [untold_iff_overflows hClock] at hFails hAnswer
  refine ⟨response, hResponse, hFails, ?_⟩
  by_cases hExpired : expiry ≤ time
  · rw [if_pos hExpired] at hAnswer hOperations ⊢
    exact ⟨hAnswer, hOperations⟩
  · rw [if_neg hExpired] at hAnswer hOperations ⊢
    by_cases hEarly : time < now
    · rw [if_pos hEarly] at hAnswer hOperations ⊢
      exact ⟨hAnswer, hOperations⟩
    · rw [if_neg hEarly] at hAnswer hOperations ⊢
      have hIssued : claims.tenantId = tenantId := rfl
      rw [judgement, hIssued] at hAnswer hOperations
      by_cases hOther : id ≠ tenantId
      · rw [if_neg hOther] at hAnswer hOperations
        rw [if_pos hOther]
        exact ⟨hAnswer, hOperations⟩
      · rw [if_pos (not_not.mp hOther)] at hAnswer hOperations
        rw [if_neg hOther]
        exact ⟨hAnswer, hOperations⟩

/-- Surroundings in which nothing takes any time, and the store decides like this on every
request. -/
def promptWorld (decision : RateLimit.Decision) : World Unit
  | .pause _, _ => (.now (), ())
  | call, state => decidingWorld decision call state

/-- The sample surroundings decide as they are told to, and at once. -/
theorem prompt_promptWorld {decision : RateLimit.Decision} (hAllowed : decision.allowed = true)
    (request : Http.Request) : Prompt sampleGate request (promptWorld decision) := by
  intro call state
  cases call with
  | count key limit patience =>
      refine ⟨_, _, rfl, ?_⟩
      rintro ⟨⟩
      next hBarred => exact absurd (hAllowed.symm.trans hBarred) nofun
  | _ => exact ⟨_, _, rfl, by nofun⟩

/-- A token of a user, issued for a second and a half. -/
def briefToken : String :=
  Token.issue sampleGate.key (List.replicate 12 1)
    (Token.claimsAt 42 "t1" (.name "admin") Token.sampleLifetime 1700000000)

/-- The bearer asks the service about themselves, at the end of the second second. -/
def sampleMe (authorization : Bytes) : Http.Request :=
  ⟨"GET", ⟨none, "/api/v1/me".toList⟩,
    ⟨[("host", Bytes.ofText "Acme.app"), ("authorization", authorization)]⟩, none, 1700000001999⟩

theorem authorization_sampleMe (authorization : Bytes) :
    (sampleMe authorization).headers.first? "authorization" = some authorization := rfl

theorem effectiveHost?_sampleMe (authorization : Bytes) :
    Tenant.effectiveHost? (sampleMe authorization).headers (sampleMe authorization).target =
      some "Acme.app".toList :=
  rfl

theorem isTooLarge_sampleMe (authorization : Bytes) :
    isTooLarge (sampleMe authorization) = false :=
  rfl

/-- The bearer of that token asks. -/
def briefMe : Http.Request :=
  sampleMe (Bytes.ofText ("Bearer " ++ briefToken))

theorem bears_briefMe :
    Credential.Bears briefToken.toList briefMe.headers sampleGate.cookieFallback .header := by
  have hWords : "Bearer " ++ briefToken =
      String.ofList ([] ++ ("Bearer".toList ++ ([' '] ++ (briefToken.toList ++ [])))) := by
    generalize briefToken = token
    exact String.ext (by simp)
  refine .header [] "Bearer".toList [' '] [] (by simp) (by simp) (by decide) ?_
  rw [← hWords]
  exact authorization_sampleMe _

/-- What the bearer of that token is answered, if the store decides like this. -/
def receivedMe (decision : RateLimit.Decision) : Reception × Scene Unit × List Entry :=
  (Server.mk (application sampleGate) (some (.ofSeconds 30))).receive (promptWorld decision) .stays
    [] briefMe (.fresh ())

theorem effectiveHost?_briefMe :
    Tenant.effectiveHost? briefMe.headers briefMe.target = some "Acme.app".toList :=
  effectiveHost?_sampleMe _

theorem requestLabel?_briefMe :
    Tenant.requestLabel? briefMe.headers briefMe.target = some "acme".toList := by
  rw [Tenant.requestLabel?, effectiveHost?_briefMe]
  decide

/-- Nothing troubles the sample request, whatever the counter allows. -/
theorem untroubled_receivedMe {decision : RateLimit.Decision} (hAllowed : decision.allowed = true) :
    Untroubled sampleGate briefMe (receivedMe decision).2.2 := by
  have hFound : (finding (promptWorld decision) (some (.ofSeconds 30)) sampleGate "acme".toList
      (.fresh ())).ending = .finished (.ok "t1") := rfl
  exact (prompt_promptWorld hAllowed briefMe).untroubled (Nat.zero_le _) (isTooLarge_sampleMe _) rfl
    requestLabel?_briefMe hFound []

/-- The count is replied to with this decision. -/
theorem replied_receivedMe {decision : RateLimit.Decision} {reply : CountReply}
    (h : .answered (counting sampleGate briefMe) reply ∈ (receivedMe decision).2.2) :
    reply = some (.ok decision) := by
  have hFair : AtOnce (fun entry => ∀ other, entry = .answered (counting sampleGate briefMe) other →
      other = some (.ok decision)) (promptWorld decision) := by
    intro call state
    cases call with
    | count key limit patience =>
        refine ⟨_, _, rfl, ?_⟩
        rintro other ⟨⟩
        rfl
    | _ => exact ⟨_, _, rfl, nofun⟩
  have hSmall : isTooLarge briefMe = false := isTooLarge_sampleMe _
  exact hFair.receive nofun rfl hSmall (Nat.zero_le _) [] _ h reply rfl

/-- A started second of a token's life counts in full: its bearer is still told who they are. -/
theorem me_answers_briefToken :
    Untroubled sampleGate briefMe (receivedMe sampleDecision).2.2 ∧
      ∃ response, (receivedMe sampleDecision).1 = .response response ∧
        Tells response 42 ⟨"t1", "acme"⟩ (.name "admin") ∧
        operations (receivedMe sampleDecision).2.2 = [.begin, .bind "app.tenant" "t1", .commit] := by
  have hLower : Text.lower (Text.before '.' "Acme.app".toList) = "acme".toList := by decide
  have hFound : (finding (promptWorld sampleDecision) (some (.ofSeconds 30)) sampleGate
      "acme".toList (.fresh ())).ending = .finished (.ok "t1") := rfl
  have hUntroubled : Untroubled sampleGate briefMe (receivedMe sampleDecision).2.2 :=
    untroubled_receivedMe rfl
  have hReplied := @replied_receivedMe sampleDecision
  refine ⟨hUntroubled, ?_⟩
  unfold receivedMe at hUntroubled hReplied ⊢
  obtain ⟨response, hResponse, -, hAnswer⟩ := me_answers_issued_token (promptWorld sampleDecision)
    (.ofSeconds 30) sampleGate briefMe [] (.fresh ()) (List.replicate 12 1) rfl 42 1700000000
    (by decide) (by decide) "t1" (by decide) (.name "admin") (by simp) Token.sampleLifetime .header
    bears_briefMe rfl rfl (by decide) "Acme.app".toList effectiveHost?_briefMe (by decide) "t1"
    (hLower ▸ hFound) hUntroubled
  have hCeil : ⌈(Token.sampleLifetime.nanoseconds : ℚ) / 1000000000⌉ = 2 := by
    norm_num [Token.sampleLifetime]
  have hValid : ¬ max Text.minI64 (min Text.maxI64 (1700000000 + 2)) ≤ briefMe.now / 1000 := by
    decide
  have hBegun : ¬ briefMe.now / 1000 < 1700000000 := by decide
  have hSetting : sampleGate.tenantSetting = "app.tenant" := rfl
  rw [hCeil, if_neg hValid, if_neg hBegun, if_neg (by simp), hLower, String.ofList_toList, hSetting]
    at hAnswer
  obtain ⟨hTells, hOperations⟩ := hAnswer
  refine ⟨response, hResponse, hTells ?_, hOperations⟩
  rintro ⟨decision, hDecision, hOver⟩
  cases hReplied hDecision
  exact absurd hOver.2 (by decide)

/-- The same bearer is told of a failure where their full quota is too far away, though they were
let pass, their token is good, and their transaction is committed. -/
theorem distant_quota_fails_briefToken :
    Untroubled sampleGate briefMe (receivedMe (distantDecision true)).2.2 ∧
      ∃ response, (receivedMe (distantDecision true)).1 = .response response ∧
        response.status = 500 ∧
        operations (receivedMe (distantDecision true)).2.2 =
          [.begin, .bind "app.tenant" "t1", .commit] := by
  have hUntroubled : Untroubled sampleGate briefMe (receivedMe (distantDecision true)).2.2 :=
    untroubled_receivedMe rfl
  have hReplied := @replied_receivedMe (distantDecision true)
  refine ⟨hUntroubled, ?_⟩
  unfold receivedMe at hUntroubled hReplied ⊢
  have hFound : (finding (promptWorld (distantDecision true)) (some (.ofSeconds 30)) sampleGate
      "acme".toList (.fresh ())).ending = .finished (.ok "t1") := rfl
  let claims := Token.claimsAt 42 "t1" (.name "admin") Token.sampleLifetime 1700000000
  have hFits : claims.Fits :=
    Token.fits_claimsAt (by decide) (by decide) (by simp) "t1" Token.sampleLifetime
  have hFind := Credential.find_of_bears (Token.isBearable_sealToken ..) bears_briefMe
  have hVerified : verifyToken sampleGate briefMe (String.ofList briefToken.toList) =
      .ok (.ok claims) := by
    have hNotExpired : ¬ claims.expiresAt ≤ briefMe.now / 1000 := by decide
    have hBegun : ¬ briefMe.now / 1000 < claims.notBefore := by decide
    rw [String.ofList_toList, briefToken,
      verifyToken_issue rfl hFits (by decide) (timeOf_eq_ok (by decide)), if_neg hNotExpired,
      if_neg hBegun]
  obtain ⟨response, hResponse, hOperations, hFails, -⟩ := me_answers_judgement rfl rfl
    requestLabel?_briefMe hFound hFind hVerified hUntroubled
  obtain ⟨reply, hReply⟩ := exists_answered_of_mem_callsOf hUntroubled.counted hUntroubled.inTime
  obtain rfl := hReplied hReply
  have hOver : Overflows briefMe.now (distantDecision true).resetAfter :=
    ⟨by decide, by decide⟩
  exact ⟨response, hResponse, (hFails ⟨_, hReply, fun h => h.room hOver⟩).1, hOperations⟩

end Site

end Gatehouse
