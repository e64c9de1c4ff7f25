import Gatehouse.Proofs.Finalization
import Gatehouse.Proofs.ResetTime

/-! The order of the stages. What a request asks of the collaborators of the service is decided by
one stage after the other: the first stage that refuses ends the request, and no later stage has
made a call by then. Once the request has been counted its answer is told the quota, and an answer
that cannot be told it breaks off. -/
namespace Gatehouse.Pipeline

variable {σ : Type} {world : World σ} {deadline : Option Duration} {gate : Gate} {access : Access}
    {request : Http.Request} {scene : Scene σ}

/-! ## Exchanges -/

/-- A call to the directory, a store or the database. The others are waits of the request itself,
and clones that it gives away. -/
def isCollaboration : Call → Bool
  | .untilFree | .keep _ | .pause _ => false
  | _ => true

/-- What was asked of the collaborators in a run, with the answers, in order. -/
def exchanges (trace : List Entry) : List Entry :=
  trace.filter fun entry => entry.call?.any isCollaboration

@[simp] theorem exchanges_append (first second : List Entry) :
    exchanges (first ++ second) = exchanges first ++ exchanges second :=
  List.filter_append ..

@[simp] theorem exchanges_nil : exchanges [] = [] := rfl

theorem exchanges_answered {call : Call} (h : isCollaboration call = true) (answer : call.Answer)
    (rest : List Entry) :
    exchanges (.answered call answer :: rest) = .answered call answer :: exchanges rest :=
  List.filter_cons_of_pos h

theorem exchanges_dropped {call : Call} (h : isCollaboration call = true) (rest : List Entry) :
    exchanges (.dropped call :: rest) = .dropped call :: exchanges rest :=
  List.filter_cons_of_pos h

@[simp] theorem exchanges_logged (event : Event) (rest : List Entry) :
    exchanges (.logged event :: rest) = exchanges rest := rfl

@[simp] theorem exchanges_events (events : List Event) :
    exchanges (events.map .logged) = [] := by
  induction events with
  | nil => rfl
  | cons event rest ih => exact ih

/-- The calls of the exchanges are the calls to collaborators. -/
theorem callsOf_exchanges (trace : List Entry) :
    callsOf (exchanges trace) = (callsOf trace).filter isCollaboration := by
  induction trace with
  | nil => rfl
  | cons entry rest ih =>
      cases hCall : entry.call? with
      | none => simpa [exchanges, callsOf, hCall] using ih
      | some call =>
          cases hIs : isCollaboration call with
          | true => simpa [exchanges, callsOf, hCall, hIs] using ih
          | false => simpa [exchanges, callsOf, hCall, hIs] using ih

/-- A handler asks only the database, and only for statements. -/
theorem isStatement_of_exchanges {trace : List Entry} (h : ∀ call ∈ callsOf trace, IsWork call) :
    ∀ call ∈ callsOf (exchanges trace), IsStatement call := by
  intro call hCall
  rw [callsOf_exchanges, List.mem_filter] at hCall
  have hWork := h call hCall.1
  cases call <;> first | exact trivial | exact hWork.elim | cases hCall.2

/-! ## Answers -/

/-- The answer is a response with this status. -/
def HasStatus (answer : Answer) (status : Nat) : Prop :=
  ∃ response, answer = .ok response ∧ response.status = status

theorem hasStatus_ok (response : Http.Response) : HasStatus (.ok response) response.status :=
  ⟨response, rfl, rfl⟩

/-- A refusal has the status that is given for it. -/
theorem hasStatus_refuse (refusal : Refusal) : HasStatus (Answer.refuse refusal) refusal.status :=
  ⟨_, rfl, rfl⟩

/-- The reply of the counter store, if it came in time. -/
abbrev CountReply := Option (Except RateLimit.Error RateLimit.Decision)

/-- What the limiter says about a request after this reply. -/
def admissionOf (limiter : RateLimit.Limiter) : CountReply → RateLimit.Admission
  | some (.ok decision) => .decided decision
  | _ => limiter.failMode.admission

/-- The answer of a request that the limiter has let pass: where it has decided, the response tells
the quota. -/
def tellQuota (gate : Gate) (request : Http.Request) :
    RateLimit.Admission → Answer → Answer
  | .decided decision => fun answer =>
    answer.bind (addQuota gate.limiter.config.limit.rate decision request)
  | _ => id

/-- What comes of telling the quota after an admission. Where the limiter has not decided, there is
nothing to tell. -/
def telling (request : Http.Request) : RateLimit.Admission → Except Panic Unit
  | .decided decision => (resetOf request decision).map fun _ => ()
  | _ => .ok ()

/-- Telling the quota breaks off just for decisions that cannot be told. -/
theorem telling_eq_ok_iff (request : Http.Request) (admission : RateLimit.Admission) :
    telling request admission = .ok () ↔
      ∀ decision, admission = .decided decision → Tellable request decision := by
  cases admission with
  | failedOpen => exact iff_of_true rfl nofun
  | failedClosed => exact iff_of_true rfl nofun
  | decided decision =>
      have hOne : (∀ other, RateLimit.Admission.decided decision = .decided other →
          Tellable request other) ↔ Tellable request decision :=
        ⟨fun h => h decision rfl, by rintro h _ ⟨⟩; exact h⟩
      rw [hOne, ← resetOf_eq_ok_iff]
      cases hReset : resetOf request decision with
      | ok reset => exact iff_of_true (by rw [telling, hReset]; rfl) ⟨reset, rfl⟩
      | error panic => exact iff_of_false (by rw [telling, hReset]; nofun) nofun

/-- Telling the quota changes headers only. -/
theorem tellQuota_ok (gate : Gate) {admission : RateLimit.Admission}
    (h : telling request admission = .ok ()) (response : Http.Response) :
    ∃ told, tellQuota gate request admission (.ok response) = .ok told ∧
      told.status = response.status ∧ told.body = response.body := by
  cases admission with
  | failedOpen => exact ⟨response, rfl, rfl, rfl⟩
  | failedClosed => exact ⟨response, rfl, rfl, rfl⟩
  | decided decision =>
      cases hReset : resetOf request decision with
      | ok reset => exact ⟨_, addQuota_ok hReset _ response, rfl, rfl⟩
      | error panic =>
          rw [telling, hReset] at h
          cases h

/-- Where telling the quota breaks off, there is no response. -/
theorem tellQuota_error (gate : Gate) {admission : RateLimit.Admission} {panic : Panic}
    (h : telling request admission = .error panic) (response : Http.Response) :
    tellQuota gate request admission (.ok response) = .error panic := by
  cases admission with
  | failedOpen => cases h
  | failedClosed => cases h
  | decided decision =>
      cases hReset : resetOf request decision with
      | ok reset =>
          rw [telling, hReset] at h
          cases h
      | error cause =>
          rw [telling, hReset] at h
          cases h
          exact addQuota_error hReset _ response

/-- The answer is a response with this status, unless telling the quota in it breaks off: then it is
the panic of that. -/
def TellsStatus (request : Http.Request) (admission : RateLimit.Admission) (answer : Answer)
    (status : Nat) : Prop :=
  match telling request admission with
  | .ok () => HasStatus answer status
  | .error panic => answer = .error panic

/-- A quota is told beside an answer, or the answer is lost to it. -/
theorem HasStatus.tellQuota {answer : Answer} {status : Nat} (h : HasStatus answer status)
    (admission : RateLimit.Admission) :
    TellsStatus request admission (tellQuota gate request admission answer) status := by
  obtain ⟨response, rfl, rfl⟩ := h
  unfold TellsStatus
  cases hTelling : telling request admission with
  | ok _ =>
      obtain ⟨told, hTold, hStatus, -⟩ := tellQuota_ok gate hTelling response
      exact ⟨told, hTold, hStatus⟩
  | error panic => exact tellQuota_error gate hTelling response

theorem TellsStatus.setHeader {admission : RateLimit.Admission} {answer : Answer} {status : Nat}
    (h : TellsStatus request admission answer status) (name value : String) :
    TellsStatus request admission (answer.map fun response => response.setHeader name value)
      status := by
  unfold TellsStatus at h ⊢
  cases hTelling : telling request admission with
  | ok _ =>
      rw [hTelling] at h
      obtain ⟨response, rfl, rfl⟩ := h
      exact ⟨_, rfl, rfl⟩
  | error panic =>
      rw [hTelling] at h
      subst h
      rfl

/-- Whatever comes of telling the quota, the answer has this status or is a panic. -/
theorem TellsStatus.hasStatus_or {admission : RateLimit.Admission} {answer : Answer} {status : Nat}
    (h : TellsStatus request admission answer status) :
    HasStatus answer status ∨ ∃ panic, answer = .error panic := by
  unfold TellsStatus at h
  split at h
  · exact .inl h
  · exact .inr ⟨_, h⟩

/-! ## Passing -/

/-- The run of the dispatcher for a label. -/
def finding (world : World σ) (deadline : Option Duration) (gate : Gate) (label : List Char)
    (scene : Scene σ) : Outcome σ (Except Tenant.LookupError String) :=
  (gate.tenants.find (String.ofList label)).run world deadline scene

/-- The tenant is the dispatcher's answer for the label of the request, and this is what the
dispatcher asked for it. -/
def Resolves (world : World σ) (deadline : Option Duration) (gate : Gate) (request : Http.Request)
    (scene : Scene σ) (tenant : Tenant) (lookups : List Entry) : Prop :=
  ∃ label, Tenant.requestLabel? request.headers request.target = some label ∧
    tenant.domain = String.ofList label ∧
    (finding world deadline gate label scene).ending = .finished (.ok tenant.id) ∧
    lookups = exchanges (finding world deadline gate label scene).trace

/-- The call that counts a request: under the key of its client, with the limit of the service. -/
@[reducible] def counting (gate : Gate) (request : Http.Request) : Call :=
  .count (gate.limiter.key (String.ofList (RateLimit.client request.headers request.peer)))
    gate.limiter.config.limit gate.limiter.patience

/-- Why a request is not entitled to an operation for bearers of a token. -/
inductive Unauthorized (gate : Gate) (request : Http.Request) (tenant : Tenant) :
    UnauthorizedReason → Prop
  | credential (error : CredentialError)
      (h : Credential.find request.headers gate.cookieFallback = .error error) :
      Unauthorized gate request tenant (credentialReason error)
  | token (text : List Char) (source : CredentialSource) (error : Token.Error)
      (hFound : Credential.find request.headers gate.cookieFallback = .ok (text, source))
      (hVerified : verifyToken gate request (String.ofList text) = .ok (.error error)) :
      Unauthorized gate request tenant (tokenReason error)
  | tenant (claims : Token.Claims) (hShows : Shows gate request claims)
      (h : tenant.id ≠ claims.tenantId) : Unauthorized gate request tenant .tenantMismatch

/-- The request has passed the stages before the isolation stage: for this tenant, with this reply
of the counter store, and with these claims. -/
structure Passes (world : World σ) (deadline : Option Duration) (gate : Gate) (access : Access)
    (request : Http.Request) (scene : Scene σ) (tenant : Tenant) (lookups : List Entry)
    (reply : CountReply) (claims : Option Token.Claims) :
    Prop where
  resolves : Resolves world deadline gate request scene tenant lookups
  counts : (admissionOf gate.limiter reply).isAllowed = true
  entitled : Entitled gate request tenant access claims

/-- What has been asked for a request when its handler is called. -/
def askedBefore (gate : Gate) (request : Http.Request) (tenant : Tenant) (lookups : List Entry)
    (reply : CountReply) : List Entry :=
  lookups ++ [.answered (counting gate request) reply, .answered .begin (.ok ()),
    .answered (.bind gate.tenantSetting tenant.id) (.ok ())]

/-! ## Halting -/

/-- All the ways in which a request can end before its handler, with all that was asked by then.
Each way has its stage, and whatever comes before that stage has let the request pass. -/
inductive Halted (world : World σ) (deadline : Option Duration) (gate : Gate) (access : Access)
    (request : Http.Request) (scene : Scene σ) : Ending Answer → List Entry → Prop
  | hostless (hLabel : Tenant.requestLabel? request.headers request.target = none)
      (hStatus : HasStatus (Answer.refuse .tenantUnresolved) 400) :
      Halted world deadline gate access request scene
        (.finished (Answer.refuse .tenantUnresolved)) []
  | lookupDropped (label : List Char)
      (hLabel : Tenant.requestLabel? request.headers request.target = some label)
      (holds : List Hold)
      (hFinding : (finding world deadline gate label scene).ending = .dropped holds) :
      Halted world deadline gate access request scene (.dropped holds)
        (exchanges (finding world deadline gate label scene).trace)
  | unresolved (label : List Char)
      (hLabel : Tenant.requestLabel? request.headers request.target = some label)
      (error : Tenant.LookupError)
      (hFinding : (finding world deadline gate label scene).ending = .finished (.error error))
      (hStatus : HasStatus (Answer.refuse .tenantUnresolved) 400) :
      Halted world deadline gate access request scene
        (.finished (Answer.refuse .tenantUnresolved))
        (exchanges (finding world deadline gate label scene).trace)
  | countDropped (tenant : Tenant) (lookups : List Entry)
      (hResolves : Resolves world deadline gate request scene tenant lookups) :
      Halted world deadline gate access request scene (.dropped [])
        (lookups ++ [.dropped (counting gate request)])
  | denied (tenant : Tenant) (lookups : List Entry)
      (hResolves : Resolves world deadline gate request scene tenant lookups)
      (decision : RateLimit.Decision) (hDenied : decision.allowed = false) (answer : Answer)
      (hStatus : TellsStatus request (.decided decision) answer 429) :
      Halted world deadline gate access request scene (.finished answer)
        (lookups ++ [.answered (counting gate request) (some (.ok decision))])
  | uncounted (tenant : Tenant) (lookups : List Entry)
      (hResolves : Resolves world deadline gate request scene tenant lookups)
      (reply : CountReply)
      (hReply : ∀ decision, reply ≠ some (.ok decision)) (hMode : gate.limiter.failMode = .strict)
      (hStatus : HasStatus (Answer.refuse .rateLimitUnavailable) 503) :
      Halted world deadline gate access request scene
        (.finished (Answer.refuse .rateLimitUnavailable))
        (lookups ++ [.answered (counting gate request) reply])
  | unauthorized (tenant : Tenant) (lookups : List Entry)
      (hResolves : Resolves world deadline gate request scene tenant lookups)
      (reply : CountReply) (hCounts : (admissionOf gate.limiter reply).isAllowed = true)
      (hAccess : access = .bearer)
      (reason : UnauthorizedReason) (hReason : Unauthorized gate request tenant reason)
      (answer : Answer) (hAnswer : answer = tellQuota gate request (admissionOf gate.limiter reply)
        (Answer.refuse (.unauthorized reason)))
      (hStatus : TellsStatus request (admissionOf gate.limiter reply) answer 401) :
      Halted world deadline gate access request scene (.finished answer)
        (lookups ++ [.answered (counting gate request) reply])
  /-- Verifying the token, or reading the time for it, has come to a panic. -/
  | brokenOff (tenant : Tenant) (lookups : List Entry)
      (hResolves : Resolves world deadline gate request scene tenant lookups)
      (reply : CountReply) (hCounts : (admissionOf gate.limiter reply).isAllowed = true)
      (hAccess : access = .bearer)
      (text : List Char) (source : CredentialSource)
      (hFound : Credential.find request.headers gate.cookieFallback = .ok (text, source))
      (panic : Panic) (hVerified : verifyToken gate request (String.ofList text) = .error panic) :
      Halted world deadline gate access request scene (.finished (.error panic))
        (lookups ++ [.answered (counting gate request) reply])
  | beginDropped (tenant : Tenant) (lookups : List Entry)
      (reply : CountReply) (claims : Option Token.Claims)
      (hPasses : Passes world deadline gate access request scene tenant lookups reply claims) :
      Halted world deadline gate access request scene (.dropped [])
        (lookups ++ [.answered (counting gate request) reply, .dropped .begin])
  | unbegun (tenant : Tenant) (lookups : List Entry)
      (reply : CountReply) (claims : Option Token.Claims)
      (hPasses : Passes world deadline gate access request scene tenant lookups reply claims)
      (error : Database.Error) (answer : Answer)
      (hStatus : TellsStatus request (admissionOf gate.limiter reply) answer 500) :
      Halted world deadline gate access request scene (.finished answer)
        (lookups ++ [.answered (counting gate request) reply, .answered .begin (.error error)])
  | bindDropped (tenant : Tenant) (lookups : List Entry)
      (reply : CountReply) (claims : Option Token.Claims)
      (hPasses : Passes world deadline gate access request scene tenant lookups reply claims) :
      Halted world deadline gate access request scene (.dropped [.transaction])
        (lookups ++ [.answered (counting gate request) reply, .answered .begin (.ok ()),
          .dropped (.bind gate.tenantSetting tenant.id)])
  | rollbackDropped (tenant : Tenant) (lookups : List Entry)
      (reply : CountReply) (claims : Option Token.Claims)
      (hPasses : Passes world deadline gate access request scene tenant lookups reply claims)
      (error : Database.Error) :
      Halted world deadline gate access request scene (.dropped [])
        (lookups ++ [.answered (counting gate request) reply, .answered .begin (.ok ()),
          .answered (.bind gate.tenantSetting tenant.id) (.error error), .dropped .rollback])
  | unbound (tenant : Tenant) (lookups : List Entry)
      (reply : CountReply) (claims : Option Token.Claims)
      (hPasses : Passes world deadline gate access request scene tenant lookups reply claims)
      (error : Database.Error) (undone : Except Database.Error Unit) (answer : Answer)
      (hStatus : TellsStatus request (admissionOf gate.limiter reply) answer 500) :
      Halted world deadline gate access request scene (.finished answer)
        (lookups ++ [.answered (counting gate request) reply, .answered .begin (.ok ()),
          .answered (.bind gate.tenantSetting tenant.id) (.error error),
          .answered .rollback undone])

/-! ## Runs of the stages -/

/-- With a label the tenant is what the directory finds, or the request is refused. -/
theorem run_tenantFor_of_label {label : List Char}
    (h : Tenant.requestLabel? request.headers request.target = some label) :
    (tenantFor gate request).run world deadline scene =
      (finding world deadline gate label scene).andThen fun found scene =>
        match found with
        | .error error => ⟨.finished (.error (Answer.refuse .tenantUnresolved)), scene,
            [.logged (lookupEvent (String.ofList label) error)]⟩
        | .ok id => ⟨.finished (.ok ⟨id, String.ofList label⟩), scene, []⟩ := by
  have hLabel : (Tenant.effectiveHost? request.headers request.target).bind Tenant.label? =
      some label := h
  unfold tenantFor
  dsimp only
  rw [hLabel]
  dsimp only
  rw [Program.run_bind]
  unfold finding
  congr 1
  funext found scene
  cases found <;> rfl

/-- What the limiter makes of a request: an answer, or how its later answer is told. -/
inductive Limited (gate : Gate) (request : Http.Request) (reply : CountReply) :
    Except Answer (Answer → Answer) → Prop
  | passed (hCounts : (admissionOf gate.limiter reply).isAllowed = true) :
      Limited gate request reply (.ok (tellQuota gate request (admissionOf gate.limiter reply)))
  | denied (decision : RateLimit.Decision) (hReply : reply = some (.ok decision))
      (hDenied : decision.allowed = false) (answer : Answer)
      (hStatus : TellsStatus request (.decided decision) answer 429) :
      Limited gate request reply (.error answer)
  | uncounted (hReply : ∀ decision, reply ≠ some (.ok decision))
      (hMode : gate.limiter.failMode = .strict) :
      Limited gate request reply (.error (Answer.refuse .rateLimitUnavailable))

/-- A decision counts as it is. Without one, the fail mode decides. -/
theorem admissionOf_cases (limiter : RateLimit.Limiter) (reply : CountReply) :
    (∃ decision, reply = some (.ok decision)) ∨
      (∀ decision, reply ≠ some (.ok decision)) ∧
        admissionOf limiter reply = limiter.failMode.admission := by
  cases reply with
  | none => exact .inr ⟨by simp, rfl⟩
  | some answer =>
      cases answer with
      | ok decision => exact .inl ⟨decision, rfl⟩
      | error error => exact .inr ⟨by simp, rfl⟩

variable (world deadline) in
/-- The limiter makes one call, and reports at most that it has failed. -/
theorem run_admission (limiter : RateLimit.Limiter) (client : String) (scene : Scene σ) :
    ∃ events : CountReply → List Event, (limiter.admission client).run world deadline scene =
      match scene.ask world deadline
        (.count (limiter.key client) limiter.config.limit limiter.patience) with
      | .ok (reply, after) =>
        ⟨.finished (admissionOf limiter reply), after,
          .answered (.count (limiter.key client) limiter.config.limit limiter.patience) reply ::
            (events reply).map .logged⟩
      | .error after =>
        ⟨.dropped [], after,
          [.dropped (.count (limiter.key client) limiter.config.limit limiter.patience)]⟩ := by
  refine ⟨fun
    | none => [limiter.failureEvent .timeout]
    | some (.error error) => [limiter.failureEvent error]
    | some (.ok _) => [], ?_⟩
  change (Program.ask (.count _ _ _) [] _).run world deadline scene = _
  rw [Program.run_ask]
  cases scene.ask world deadline (.count _ _ _) with
  | error after => rfl
  | ok result =>
      obtain ⟨reply, after⟩ := result
      cases reply with
      | none => rfl
      | some answer => cases answer <;> rfl

variable (world deadline gate request) in
/-- Either the request is dropped while it is counted, or the reply decides. -/
theorem run_quotaFor (scene : Scene σ) :
    let outcome := (quotaFor gate request).run world deadline scene
    (outcome.ending = .dropped [] ∧ exchanges outcome.trace = [.dropped (counting gate request)]) ∨
    ∃ reply result, Limited gate request reply result ∧ outcome.ending = .finished result ∧
      exchanges outcome.trace = [.answered (counting gate request) reply] := by
  obtain ⟨events, hRun⟩ := run_admission world deadline gate.limiter
    (String.ofList (RateLimit.client request.headers request.peer)) scene
  dsimp only
  rw [quotaFor, Program.run_bind, hRun]
  cases scene.ask world deadline (counting gate request) with
  | error after => exact .inl ⟨rfl, rfl⟩
  | ok result =>
      obtain ⟨reply, after⟩ := result
      have hCounted (later : List Entry) (hLater : exchanges later = []) :
          exchanges (.answered (counting gate request) reply :: (events reply).map .logged ++
            later) = [.answered (counting gate request) reply] := by
        rw [List.cons_append, exchanges_answered rfl, exchanges_append, exchanges_events, hLater]
        rfl
      refine .inr ⟨reply, ?_⟩
      dsimp only [Outcome.andThen]
      rcases admissionOf_cases gate.limiter reply with ⟨decision, rfl⟩ | ⟨hReply, hAdmission⟩
      · dsimp only [admissionOf]
        cases hAllowed : decision.allowed with
        | true => exact ⟨_, .passed hAllowed, rfl, hCounted _ rfl⟩
        | false =>
            let wait := RateLimit.retryAfterSeconds decision.retryAfter
            have hStatus : TellsStatus request (.decided decision)
                (tellQuota gate request (.decided decision) (.ok (tooManyRequests wait))) 429 :=
              (hasStatus_ok (tooManyRequests wait)).tellQuota (.decided decision)
            have hDenied : Limited gate request (some (.ok decision)) _ :=
              .denied decision rfl hAllowed _ (hStatus.setHeader "retry-after" (toString wait))
            exact ⟨_, hDenied, rfl, hCounted _ rfl⟩
      · rw [hAdmission]
        cases hMode : gate.limiter.failMode with
        | lenient =>
            have hPassed : Limited gate request reply _ := .passed (by rw [hAdmission, hMode]; rfl)
            rw [hAdmission, hMode] at hPassed
            exact ⟨_, hPassed, rfl, hCounted _ rfl⟩
        | strict => exact ⟨_, .uncounted hReply hMode, rfl, hCounted _ rfl⟩

/-- What authorizing a request comes to. -/
inductive Judged (gate : Gate) (access : Access) (request : Http.Request) (tenant : Tenant) :
    Except Answer (Option Token.Claims) → Prop
  | entitled (claims : Option Token.Claims) (h : Entitled gate request tenant access claims) :
      Judged gate access request tenant (.ok claims)
  | unauthorized (hAccess : access = .bearer) (reason : UnauthorizedReason)
      (h : Unauthorized gate request tenant reason) :
      Judged gate access request tenant (.error (Answer.refuse (.unauthorized reason)))
  | brokenOff (hAccess : access = .bearer) (text : List Char) (source : CredentialSource)
      (hFound : Credential.find request.headers gate.cookieFallback = .ok (text, source))
      (panic : Panic) (hVerified : verifyToken gate request (String.ofList text) = .error panic) :
      Judged gate access request tenant (.error (.error panic))

variable (world deadline gate access request) in
/-- Authorizing a request asks nobody. -/
theorem run_claimsFor (tenant : Tenant) (scene : Scene σ) :
    ∃ (result : Except Answer (Option Token.Claims)) (events : List Event),
      Judged gate access request tenant result ∧
        (claimsFor gate access request tenant).run world deadline scene =
          ⟨.finished result, scene, events.map .logged⟩ := by
  unfold claimsFor
  cases access with
  | everyone => exact ⟨_, [], .entitled none rfl, rfl⟩
  | bearer =>
      dsimp only
      cases hFound : Credential.find request.headers gate.cookieFallback with
      | error error => exact ⟨_, [_], .unauthorized rfl _ (.credential error hFound), rfl⟩
      | ok found =>
          dsimp only
          cases hVerified : verifyToken gate request (String.ofList found.1) with
          | error panic =>
              exact ⟨_, [], .brokenOff rfl found.1 found.2 hFound panic hVerified, rfl⟩
          | ok verified =>
              cases verified with
              | error error =>
                  exact ⟨_, [_], .unauthorized rfl _
                    (.token found.1 found.2 error hFound hVerified), rfl⟩
              | ok claims =>
                  have hShows : Shows gate request claims := ⟨found.1, found.2, hFound, hVerified⟩
                  dsimp only
                  split
                  · next hTenant =>
                    exact ⟨_, [], .entitled _ ⟨claims, rfl, hShows, hTenant.symm⟩, rfl⟩
                  · next hTenant =>
                    exact ⟨_, [_], .unauthorized rfl _ (.tenant claims hShows hTenant), rfl⟩

/-! ## From stage to stage -/

/-- What authorization and opening make of a request that was counted. -/
def afterCount (gate : Gate) (access : Access) (request : Http.Request) (tenant : Tenant)
    (tell : Answer → Answer) : Program (Except Answer Admitted) :=
  (claimsFor gate access request tenant).bind fun
  | .error answer => .done (.error (tell answer))
  | .ok claims => (opening gate.tenantSetting tenant.id).bind fun
    | .error answer => .done (.error (tell answer))
    | .ok () => .done (.ok ⟨tenant, claims, tell⟩)

/-- The way up to the transaction begins with the tenant. -/
theorem approach_eq (gate : Gate) (access : Access) (request : Http.Request) :
    approach gate access request = (tenantFor gate request).bind fun
      | .error answer => .done (.error answer)
      | .ok tenant => (quotaFor gate request).bind fun
        | .error answer => .done (.error answer)
        | .ok tell => afterCount gate access request tenant tell := by
  rw [approach, admitRequest, Program.bind_assoc]
  congr 1
  funext found
  cases found with
  | error answer => rfl
  | ok tenant =>
      dsimp only
      rw [Program.bind_assoc]
      congr 1
      funext quota
      cases quota with
      | error answer => rfl
      | ok tell =>
          dsimp only
          rw [Program.bind_assoc, afterCount]
          congr 1
          funext shown
          cases shown <;> rfl

/-- What is left of an approach when these exchanges have been made: it halts, or it comes to an
admitted request. -/
def Proceeds (world : World σ) (deadline : Option Duration) (gate : Gate) (access : Access)
    (request : Http.Request) (scene : Scene σ) (before : List Entry)
    (rest : Outcome σ (Except Answer Admitted)) : Prop :=
  (∃ ending : Ending Answer, rest.ending = ending.map .error ∧
    Halted world deadline gate access request scene ending (before ++ exchanges rest.trace)) ∨
  ∃ tenant lookups reply claims,
    Passes world deadline gate access request scene tenant lookups reply claims ∧
    rest.ending = .finished (.ok
      ⟨tenant, claims, tellQuota gate request (admissionOf gate.limiter reply)⟩) ∧
    before ++ exchanges rest.trace = askedBefore gate request tenant lookups reply

/-- What was asked before moves to the front. -/
theorem Proceeds.behind {before : List Entry} {rest : Outcome σ (Except Answer Admitted)}
    {trace : List Entry}
    (h : Proceeds world deadline gate access request scene (before ++ exchanges trace) rest) :
    Proceeds world deadline gate access request scene before (rest.behind trace) := by
  simpa [Proceeds] using h

/-- A request that does not come through ends where it was halted. -/
theorem Proceeds.halted {before : List Entry} {rest : Outcome σ (Except Answer Admitted)}
    (ending : Ending Answer) (asked : List Entry) (hEnding : rest.ending = ending.map .error)
    (hTrace : exchanges rest.trace = asked)
    (h : Halted world deadline gate access request scene ending (before ++ asked)) :
    Proceeds world deadline gate access request scene before rest :=
  .inl ⟨ending, hEnding, hTrace ▸ h⟩

/-- What opening a transaction makes of a request that has passed all stages before. -/
theorem proceeds_afterClaims {tenant : Tenant} {lookups : List Entry} {reply : CountReply}
    {claims : Option Token.Claims}
    (hPasses : Passes world deadline gate access request scene tenant lookups reply claims)
    {tell : Answer → Answer}
    (hTell : tell = tellQuota gate request (admissionOf gate.limiter reply))
    (entry : Scene σ) :
    Proceeds world deadline gate access request scene
      (lookups ++ [.answered (counting gate request) reply])
      (((opening gate.tenantSetting tenant.id).bind fun
        | .error answer => .done (.error (tell answer))
        | .ok () => .done (.ok ⟨tenant, claims, tell⟩)).run world deadline entry) := by
  have hRun := run_opening world deadline gate.tenantSetting tenant.id entry
  have hStatus : TellsStatus request (admissionOf gate.limiter reply)
      (tell (Answer.refuse .internal)) 500 := by
    rw [hTell]
    exact (hasStatus_refuse .internal).tellQuota _
  rw [Program.run_bind]
  generalize (opening gate.tenantSetting tenant.id).run world deadline entry = opened at hRun ⊢
  obtain ⟨ending, after, trace⟩ := opened
  dsimp only at hRun
  cases hRun with
  | beginDropped =>
      refine .halted (.dropped []) [.dropped .begin] rfl rfl ?_
      simpa using Halted.beginDropped tenant lookups reply claims hPasses
  | beginFailed error =>
      refine .halted (.finished _) [.answered .begin (.error error)] rfl rfl ?_
      simpa using Halted.unbegun tenant lookups reply claims hPasses error _ hStatus
  | bindDropped =>
      refine .halted (.dropped [.transaction])
        [.answered .begin (.ok ()), .dropped (.bind gate.tenantSetting tenant.id)] rfl rfl ?_
      simpa using Halted.bindDropped tenant lookups reply claims hPasses
  | rollbackDropped error =>
      refine .halted (.dropped [])
        [.answered .begin (.ok ()), .answered (.bind gate.tenantSetting tenant.id) (.error error),
          .dropped .rollback] rfl rfl ?_
      simpa using Halted.rollbackDropped tenant lookups reply claims hPasses error
  | rolledBack error undone =>
      refine .halted (.finished _)
        [.answered .begin (.ok ()), .answered (.bind gate.tenantSetting tenant.id) (.error error),
          .answered .rollback undone] rfl ?_ ?_
      · cases undone <;> rfl
      · simpa using Halted.unbound tenant lookups reply claims hPasses error undone _ hStatus
  | opened =>
      refine .inr ⟨tenant, lookups, reply, claims, hPasses, hTell ▸ rfl, ?_⟩
      rw [askedBefore, List.append_assoc]
      rfl

/-- Who is let pass goes on to the token and the transaction. -/
theorem proceeds_afterCount {tenant : Tenant} {lookups : List Entry} {reply : CountReply}
    (hResolves : Resolves world deadline gate request scene tenant lookups)
    (hCounts : (admissionOf gate.limiter reply).isAllowed = true) (entry : Scene σ) :
    Proceeds world deadline gate access request scene
      (lookups ++ [.answered (counting gate request) reply])
      ((afterCount gate access request tenant
        (tellQuota gate request (admissionOf gate.limiter reply))).run world deadline entry) := by
  obtain ⟨result, events, hJudged, hRun⟩ := run_claimsFor world deadline gate access request tenant
    entry
  rw [afterCount, Program.run_bind, hRun]
  refine Proceeds.behind ?_
  rw [exchanges_events, List.append_nil]
  cases hJudged with
  | unauthorized hAccess reason hReason =>
      have hStatus : TellsStatus request (admissionOf gate.limiter reply)
          (tellQuota gate request (admissionOf gate.limiter reply)
            (Answer.refuse (.unauthorized reason))) 401 :=
        (hasStatus_refuse (.unauthorized reason)).tellQuota _
      refine .halted (.finished _) [] rfl rfl ?_
      rw [List.append_nil]
      exact .unauthorized tenant lookups hResolves reply hCounts hAccess reason hReason _ rfl
        hStatus
  | brokenOff hAccess text source hFound panic hVerified =>
      refine .halted (.finished (.error panic)) [] ?_ rfl ?_
      · cases admissionOf gate.limiter reply <;> rfl
      · rw [List.append_nil]
        exact .brokenOff tenant lookups hResolves reply hCounts hAccess text source hFound panic
          hVerified
  | entitled claims hEntitled =>
      exact proceeds_afterClaims ⟨hResolves, hCounts, hEntitled⟩ rfl entry

/-- Who has a tenant is counted first. -/
theorem proceeds_afterTenant {tenant : Tenant} {lookups : List Entry}
    (hResolves : Resolves world deadline gate request scene tenant lookups) (entry : Scene σ) :
    Proceeds world deadline gate access request scene lookups
      (((quotaFor gate request).bind fun
        | .error answer => .done (.error answer)
        | .ok tell => afterCount gate access request tenant tell).run world deadline entry) := by
  have hRun := run_quotaFor world deadline gate request entry
  rw [Program.run_bind]
  generalize (quotaFor gate request).run world deadline entry = counted at hRun ⊢
  obtain ⟨ending, after, trace⟩ := counted
  dsimp only at hRun
  rcases hRun with ⟨rfl, hTrace⟩ | ⟨reply, result, hLimited, rfl, hTrace⟩
  · exact .halted (.dropped []) _ rfl hTrace (.countDropped tenant lookups hResolves)
  · refine Proceeds.behind ?_
    rw [hTrace]
    cases hLimited with
    | passed hCounts => exact proceeds_afterCount hResolves hCounts after
    | denied decision hReply hDenied answer hStatus =>
        subst hReply
        refine .halted (.finished answer) [] rfl rfl ?_
        rw [List.append_nil]
        exact .denied tenant lookups hResolves decision hDenied answer hStatus
    | uncounted hReply hMode =>
        refine .halted (.finished _) [] rfl rfl ?_
        rw [List.append_nil]
        exact .uncounted tenant lookups hResolves reply hReply hMode (hasStatus_refuse _)

variable (world deadline gate access request scene) in
/-- From the beginning on each stage leads to the next one, or ends the request. -/
theorem proceeds_approach :
    Proceeds world deadline gate access request scene []
      ((approach gate access request).run world deadline scene) := by
  rw [approach_eq]
  cases hLabel : Tenant.requestLabel? request.headers request.target with
  | none =>
      have hNone : tenantFor gate request =
          .log (noHostEvent (Tenant.effectiveHost? request.headers request.target))
            (.done (.error (Answer.refuse .tenantUnresolved))) := by
        unfold Tenant.requestLabel? at hLabel
        simp only [tenantFor, hLabel]
      rw [hNone]
      exact .halted (.finished _) [] rfl rfl (.hostless hLabel (hasStatus_refuse _))
  | some label =>
      rw [Program.run_bind, run_tenantFor_of_label hLabel]
      cases hFinding : (finding world deadline gate label scene).ending with
      | dropped holds =>
          rw [Outcome.andThen_of_dropped hFinding, Outcome.andThen_of_dropped rfl]
          exact .halted (.dropped holds) _ rfl rfl (.lookupDropped label hLabel holds hFinding)
      | finished found =>
          rw [Outcome.andThen_of_finished hFinding, Outcome.andThen_behind]
          refine Proceeds.behind ?_
          cases found with
          | error error =>
              refine .halted (.finished _) [] rfl rfl ?_
              rw [List.append_nil]
              exact .unresolved label hLabel error hFinding (hasStatus_refuse _)
          | ok id =>
              exact proceeds_afterTenant ⟨label, hLabel, rfl, hFinding, rfl⟩ _

/-! ## Serving -/

/-- All the ways in which a request can end whose handler was called, given the run of that, with
what was asked after it. The limiter tells its quota in every response. -/
inductive Served (gate : Gate) (request : Http.Request) (admission : RateLimit.Admission)
    (tenant : String) (handled : Outcome σ Answer) : Ending Answer → List Entry → Prop
  | handlerDropped (h : handled.ending = .dropped []) :
      Served gate request admission tenant handled (.dropped [.rollback tenant]) []
  | takeDropped (result : Answer) (h : handled.ending = .finished result) :
      Served gate request admission tenant handled (.dropped [.rollback tenant]) []
  | finishDropped (result : Answer) (h : handled.ending = .finished result) :
      Served gate request admission tenant handled (.dropped []) [.dropped (finalCall result)]
  | committed (response : Http.Response) (h : handled.ending = .finished (.ok response))
      (hGood : response.status < 400)
      (hStatus : TellsStatus request admission (tellQuota gate request admission (.ok response))
        response.status) :
      Served gate request admission tenant handled
        (.finished (tellQuota gate request admission (.ok response)))
        [.answered .commit (.ok ())]
  | uncommitted (response : Http.Response) (h : handled.ending = .finished (.ok response))
      (hGood : response.status < 400) (error : Database.Error)
      (hStatus : TellsStatus request admission
        (tellQuota gate request admission (Answer.refuse .internal)) 500) :
      Served gate request admission tenant handled
        (.finished (tellQuota gate request admission (Answer.refuse .internal)))
        [.answered .commit (.error error)]
  | rolledBack (response : Http.Response) (h : handled.ending = .finished (.ok response))
      (hBad : 400 ≤ response.status) (undone : Except Database.Error Unit)
      (hStatus : TellsStatus request admission (tellQuota gate request admission (.ok response))
        response.status) :
      Served gate request admission tenant handled
        (.finished (tellQuota gate request admission (.ok response)))
        [.answered .rollback undone]
  | panicked (panic : Panic) (h : handled.ending = .finished (.error panic))
      (undone : Except Database.Error Unit) :
      Served gate request admission tenant handled (.finished (.error panic)) [.answered .rollback undone]

/-- A commit is asked for after a success only. -/
theorem finalCall_commit {result : Answer} (h : finalCall result = .commit) :
    ∃ response, result = .ok response ∧ response.status < 400 := by
  cases result with
  | error panic => cases h
  | ok response =>
      refine ⟨response, rfl, ?_⟩
      rw [finalCall] at h
      split at h
      · assumption
      · cases h

/-- A response that is rolled back is no success. -/
theorem finalCall_rollback {response : Http.Response} (h : finalCall (.ok response) = .rollback) :
    400 ≤ response.status := by
  rw [finalCall] at h
  split at h
  · cases h
  · omega

theorem isCollaboration_finalCall (result : Answer) :
    isCollaboration (finalCall result) = true := by
  rcases finalCall_eq result with h | h <;> rw [h] <;> rfl

theorem tellQuota_panic (admission : RateLimit.Admission) (panic : Panic) :
    tellQuota gate request admission (.error panic) = .error panic := by
  cases admission <;> rfl

/-- Within the transaction the handler comes first, and its end after it. -/
theorem served_of_serving {tenant : String} {handled : Outcome σ Answer} {ending : Ending Answer}
    {last : Scene σ} {rest : List Entry} (h : Serving tenant handled ending last rest)
    (admission : RateLimit.Admission) :
    ∃ after, exchanges rest = exchanges handled.trace ++ after ∧
      Served gate request admission tenant handled
        (ending.map (tellQuota gate request admission)) after := by
  cases h with
  | handlerDropped h => exact ⟨[], by simp, .handlerDropped h⟩
  | takeDropped result h => exact ⟨[], by rw [exchanges_append]; rfl, .takeDropped result h⟩
  | closed result h _ _ _ rest hFinishing =>
      have hTake : exchanges (.answered .untilFree () :: rest) = exchanges rest := rfl
      rw [exchanges_append, hTake]
      cases hFinishing with
      | dropped =>
          rw [exchanges_dropped (isCollaboration_finalCall result)]
          exact ⟨_, rfl, .finishDropped result h⟩
      | rolledBack undone hFinal =>
          refine ⟨[.answered .rollback undone], ?_, ?_⟩
          · rw [exchanges_answered rfl, exchanges_events]
          · cases result with
            | error panic =>
                rw [Ending.map, tellQuota_panic]
                exact .panicked panic h undone
            | ok response =>
                exact .rolledBack response h (finalCall_rollback hFinal) undone
                  ((hasStatus_ok response).tellQuota _)
      | committed hFinal =>
          obtain ⟨response, rfl, hGood⟩ := finalCall_commit hFinal
          exact ⟨_, rfl, .committed response h hGood ((hasStatus_ok response).tellQuota _)⟩
      | commitFailed error hFinal =>
          obtain ⟨response, rfl, hGood⟩ := finalCall_commit hFinal
          exact ⟨_, rfl, .uncommitted response h hGood error
            ((hasStatus_refuse .internal).tellQuota _)⟩

/-! ## All requests -/

variable (world deadline gate request scene) in
/-- The calls by which the dispatcher finds the tenant of a request. -/
def lookupCalls : List Call :=
  match Tenant.requestLabel? request.headers request.target with
  | none => []
  | some label => callsOf (exchanges (finding world deadline gate label scene).trace)

/-- The calls are made in the order of the stages, and not beyond the final one: the lookup, the
count, the transaction begun and bound, statements, and its end. -/
def InOrder (gate : Gate) (request : Http.Request) (lookups calls : List Call) : Prop :=
  ∃ tenant statements final, (∀ call ∈ statements, IsStatement call) ∧
    (final = .commit ∨ final = .rollback) ∧
    calls <+: lookups ++ [counting gate request, .begin, .bind gate.tenantSetting tenant] ++
      statements ++ [final]

/-- The lookups of a request that was resolved are all there are. -/
theorem Resolves.lookupCalls {tenant : Tenant} {lookups : List Entry}
    (h : Resolves world deadline gate request scene tenant lookups) :
    callsOf lookups = lookupCalls world deadline gate request scene := by
  obtain ⟨label, hLabel, -, -, rfl⟩ := h
  simp only [Pipeline.lookupCalls, hLabel]

/-- A request that has been halted has not gone beyond binding, or its transaction was rolled back
directly after that. -/
theorem inOrder_of_halted {lookups calls : List Call} (tenant : String)
    (h : calls <+: [counting gate request, .begin, .bind gate.tenantSetting tenant, .rollback]) :
    InOrder gate request lookups (lookups ++ calls) := by
  refine ⟨tenant, [], .rollback, by simp, .inr rfl, ?_⟩
  rw [List.append_nil, List.append_assoc]
  exact (List.prefix_append_right_inj lookups).mpr h

theorem inOrder_of_lookups {lookups calls : List Call} (h : calls <+: lookups) :
    InOrder gate request lookups calls := by
  refine ⟨"", [], .rollback, by simp, .inr rfl, h.trans ?_⟩
  rw [List.append_assoc, List.append_assoc]
  exact List.prefix_append lookups _

/-- Wherever a request is halted, what it asked for until then is in order. -/
theorem Halted.inOrder {ending : Ending Answer} {asked : List Entry}
    (h : Halted world deadline gate access request scene ending asked) :
    InOrder gate request (lookupCalls world deadline gate request scene) (callsOf asked) := by
  have hFound (tenant : Tenant) (lookups rest : List Entry)
      (hResolves : Resolves world deadline gate request scene tenant lookups)
      (hRest : callsOf rest <+:
        [counting gate request, .begin, .bind gate.tenantSetting tenant.id, .rollback]) :
      InOrder gate request (Pipeline.lookupCalls world deadline gate request scene)
        (callsOf (lookups ++ rest)) := by
    rw [callsOf_append, hResolves.lookupCalls]
    exact inOrder_of_halted tenant.id hRest
  have hUnfound (label : List Char)
      (hLabel : Tenant.requestLabel? request.headers request.target = some label) :
      InOrder gate request (Pipeline.lookupCalls world deadline gate request scene)
        (callsOf (exchanges (finding world deadline gate label scene).trace)) := by
    refine inOrder_of_lookups ?_
    simp only [Pipeline.lookupCalls, hLabel]
    exact List.prefix_rfl
  cases h with
  | hostless => exact inOrder_of_lookups List.nil_prefix
  | lookupDropped label hLabel => exact hUnfound label hLabel
  | unresolved label hLabel => exact hUnfound label hLabel
  | countDropped tenant lookups hResolves =>
      exact hFound tenant lookups _ hResolves ⟨_, rfl⟩
  | denied tenant lookups hResolves => exact hFound tenant lookups _ hResolves ⟨_, rfl⟩
  | uncounted tenant lookups hResolves => exact hFound tenant lookups _ hResolves ⟨_, rfl⟩
  | unauthorized tenant lookups hResolves => exact hFound tenant lookups _ hResolves ⟨_, rfl⟩
  | brokenOff tenant lookups hResolves => exact hFound tenant lookups _ hResolves ⟨_, rfl⟩
  | beginDropped tenant lookups _ _ hPasses =>
      exact hFound tenant lookups _ hPasses.resolves ⟨_, rfl⟩
  | unbegun tenant lookups _ _ hPasses =>
      exact hFound tenant lookups _ hPasses.resolves ⟨_, rfl⟩
  | bindDropped tenant lookups _ _ hPasses =>
      exact hFound tenant lookups _ hPasses.resolves ⟨_, rfl⟩
  | rollbackDropped tenant lookups _ _ hPasses =>
      exact hFound tenant lookups _ hPasses.resolves ⟨_, rfl⟩
  | unbound tenant lookups _ _ hPasses =>
      exact hFound tenant lookups _ hPasses.resolves ⟨_, rfl⟩

/-- A request that is served asks in order to its end. -/
theorem Served.inOrder {admission : RateLimit.Admission} {tenant : Tenant} {lookups : List Entry}
    {reply : CountReply} {handled : Outcome σ Answer} {ending : Ending Answer}
    {after : List Entry} (h : Served gate request admission tenant.id handled ending after)
    (hResolves : Resolves world deadline gate request scene tenant lookups)
    (hStatements : ∀ call ∈ callsOf (exchanges handled.trace), IsStatement call) :
    InOrder gate request (lookupCalls world deadline gate request scene)
      (callsOf (askedBefore gate request tenant lookups reply ++ exchanges handled.trace ++
        after)) := by
  have hAfter : ∃ final, (final = .commit ∨ final = .rollback) ∧ callsOf after <+: [final] := by
    cases h with
    | handlerDropped => exact ⟨.rollback, .inr rfl, List.nil_prefix⟩
    | takeDropped => exact ⟨.rollback, .inr rfl, List.nil_prefix⟩
    | finishDropped result => exact ⟨finalCall result, finalCall_eq result, List.prefix_rfl⟩
    | committed => exact ⟨.commit, .inl rfl, List.prefix_rfl⟩
    | uncommitted => exact ⟨.commit, .inl rfl, List.prefix_rfl⟩
    | rolledBack => exact ⟨.rollback, .inr rfl, List.prefix_rfl⟩
    | panicked => exact ⟨.rollback, .inr rfl, List.prefix_rfl⟩
  obtain ⟨final, hFinal, hPrefix⟩ := hAfter
  refine ⟨tenant.id, callsOf (exchanges handled.trace), final, hStatements, hFinal, ?_⟩
  rw [askedBefore, callsOf_append, callsOf_append, callsOf_append, hResolves.lookupCalls]
  exact (List.prefix_append_right_inj _).mpr hPrefix

variable (world deadline gate access request scene) in
/-- A request is halted at one stage, whatever its handler; or it passes all stages, and its handler
is called. -/
theorem run_apply :
    (∃ outcome, (∀ handler,
        (apply gate access handler request).run world deadline scene = outcome) ∧
      Halted world deadline gate access request scene outcome.ending (exchanges outcome.trace)) ∨
    ∃ tenant lookups reply claims entry,
      Passes world deadline gate access request scene tenant lookups reply claims ∧
      ∀ handler : Handler,
        let handled := (handler request ⟨some tenant, claims, some tenant.id⟩).toProgram.run
          world deadline entry
        let outcome := (apply gate access handler request).run world deadline scene
        (∀ call ∈ callsOf (exchanges handled.trace), IsStatement call) ∧
        ∃ after, exchanges outcome.trace =
            askedBefore gate request tenant lookups reply ++ exchanges handled.trace ++ after ∧
          Served gate request (admissionOf gate.limiter reply) tenant.id handled outcome.ending
            after := by
  rcases proceeds_approach world deadline gate access request scene with
    ⟨ending, hEnding, hHalted⟩ | ⟨tenant, lookups, reply, claims, hPasses, hEnding, hAsked⟩
  · let approached := (approach gate access request).run world deadline scene
    refine .inl ⟨⟨ending, approached.scene, approached.trace⟩, fun handler => ?_, hHalted⟩
    cases ending with
    | dropped holds => exact run_apply_of_dropped hEnding handler
    | finished answer => exact run_apply_of_answered hEnding handler
  · let entry : Scene σ := { ((approach gate access request).run world deadline scene).scene with
      handle := ⟨.hold (), false⟩ }
    refine .inr ⟨tenant, lookups, reply, claims, entry, hPasses, fun handler => ?_⟩
    obtain ⟨hWork, -, -⟩ := handling_works world deadline handler request
      ⟨some tenant, claims, some tenant.id⟩
      ((approach gate access request).run world deadline scene).scene
    obtain ⟨ending, rest, hLast, hTrace, hServing⟩ := run_apply_of_admitted hEnding handler
    obtain ⟨after, hRest, hServed⟩ := served_of_serving hServing (admissionOf gate.limiter reply)
    refine ⟨isStatement_of_exchanges hWork, after, ?_, ?_⟩
    · rw [hTrace, exchanges_append, hRest, ← hAsked, List.nil_append, List.append_assoc]
      rfl
    · rw [hLast]
      exact hServed

/-- The stages are gone through in their order, and the first that refuses ends the request.
Whatever the collaborators answer, a request is halted at one stage, in the same way for every
handler and with nothing asked beyond that stage but a rollback; or it passes all stages, and its
handler is called and its transaction finished. It is answered with the status of where it has
ended, unless the limiter has decided and cannot tell its quota: then it comes to a panic, after
all that was asked. That is so just if the clock cannot be read or leaves no room in 64 bits for
the time until the full quota is back. -/
theorem stages_in_order (world : World σ) (deadline : Option Duration) (gate : Gate)
    (access : Access) (request : Http.Request) (scene : Scene σ) :
    ((∃ outcome, (∀ handler,
          (apply gate access handler request).run world deadline scene = outcome) ∧
        Halted world deadline gate access request scene outcome.ending
          (exchanges outcome.trace)) ∨
      ∃ tenant lookups reply claims entry,
        Passes world deadline gate access request scene tenant lookups reply claims ∧
        ∀ handler : Handler,
          let handled := (handler request ⟨some tenant, claims, some tenant.id⟩).toProgram.run
            world deadline entry
          let outcome := (apply gate access handler request).run world deadline scene
          (∀ call ∈ callsOf (exchanges handled.trace), IsStatement call) ∧
          ∃ after, exchanges outcome.trace =
              askedBefore gate request tenant lookups reply ++ exchanges handled.trace ++ after ∧
            Served gate request (admissionOf gate.limiter reply) tenant.id handled outcome.ending
              after) ∧
    (∀ handler, InOrder gate request (lookupCalls world deadline gate request scene)
      (callsOf
        (exchanges ((apply gate access handler request).run world deadline scene).trace))) ∧
    ∀ admission, telling request admission = .ok () ↔
      ∀ decision, admission = .decided decision → Tellable request decision := by
  refine ⟨run_apply world deadline gate access request scene, fun handler => ?_,
    telling_eq_ok_iff request⟩
  rcases run_apply world deadline gate access request scene with
    ⟨outcome, hRun, hHalted⟩ | ⟨tenant, lookups, reply, claims, entry, hPasses, hServes⟩
  · rw [hRun handler]
    exact hHalted.inOrder
  · obtain ⟨hStatements, after, hAsked, hServed⟩ := hServes handler
    rw [hAsked]
    exact hServed.inOrder hPasses.resolves hStatements

/-! ## Quotas that are not told -/

/-- The full quota is back after the longest time in whole seconds whose milliseconds 64 bits
hold. -/
def distantDecision (allowed : Bool) : RateLimit.Decision :=
  ⟨allowed, 0, .ofSeconds 9223372036854775, .ofSeconds 1⟩

/-- Surroundings in which the store decides like this on every request. -/
def decidingWorld (decision : RateLimit.Decision) : World Unit
  | .count _ _ _, _ => (.now (some (.ok decision)), ())
  | call, state => sampleWorld .zero call state

def silentHandler : Handler := fun _ _ => .done (.ok (.bare 204))

/-- The store denies a request of today, and the request comes to a panic where it is to be told of
that. -/
theorem distant_denial_breaks_off :
    let request := { sampleRequest with now := 1700000000000 }
    let outcome := (apply sampleGate .everyone silentHandler request).run
      (decidingWorld (distantDecision false)) none (.fresh ())
    .answered (counting sampleGate request) (some (.ok (distantDecision false))) ∈ outcome.trace ∧
      outcome.ending = .finished (.error (.text "attempt to add with overflow")) ∧
      ∀ answer, outcome.ending = .finished answer → ¬ HasStatus answer 429 := by
  intro request outcome
  have hEnding : outcome.ending = .finished (.error (.text "attempt to add with overflow")) := rfl
  refine ⟨List.mem_of_getElem? (i := 1) rfl, hEnding, ?_⟩
  rintro answer hAnswer ⟨response, rfl, -⟩
  cases hEnding.symm.trans hAnswer

end Gatehouse.Pipeline
