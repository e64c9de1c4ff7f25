import Gatehouse.Proofs.Isolation

/-! The stages before the isolation stage as one program: it answers the request, or admits it with
what the stages have found out. They make no call to the database. -/
namespace Gatehouse

variable {σ : Type} {world : World σ} {deadline : Option Duration}

namespace Pipeline

/-- A call to the directory, the cache in front of it or the counter store. -/
def IsPreliminary : Call → Prop
  | .lookup _ | .readCache _ | .writeCache _ _ _ | .count _ _ _ => True
  | _ => False

/-- A program that only makes preliminary calls, with nothing in hand. -/
def Preliminary {α : Type} (program : Program α) : Prop :=
  program.Obeys (fun call holds => IsPreliminary call ∧ holds = []) fun _ => True

/-- Nothing that comes before the transaction begins one. -/
theorem begin_not_mem_of_preliminary {trace : List Entry}
    (h : ∀ call ∈ callsOf trace, IsPreliminary call) (reply : Except Database.Error Unit) :
    .answered .begin reply ∉ trace :=
  fun hMem => h .begin (mem_callsOf_of_answered hMem)

/-! ## Tenant -/

def tenantFor (gate : Gate) (request : Http.Request) : Program (Except Answer Tenant) :=
  let host := Tenant.effectiveHost? request.headers request.target
  match host.bind Tenant.label? with
  | none => .log (noHostEvent host) (.done (.error (Answer.refuse .tenantUnresolved)))
  | some label =>
    let domain := String.ofList label
    (gate.tenants.find domain).bind fun
    | .error error =>
      .log (lookupEvent domain error) (.done (.error (Answer.refuse .tenantUnresolved)))
    | .ok id => .done (.ok ⟨id, domain⟩)

/-- The stage is a program that finds the tenant, and then the rest of the stages. -/
theorem resolveTenant_eq (gate : Gate) (request : Http.Request) (context : Context)
    (next : Context → Program Answer) :
    resolveTenant gate request context next = (tenantFor gate request).bind fun
      | .error answer => .done answer
      | .ok tenant => next { context with tenant := some tenant } := by
  unfold resolveTenant tenantFor
  dsimp only
  cases (Tenant.effectiveHost? request.headers request.target).bind Tenant.label? with
  | none => rfl
  | some label =>
      dsimp only
      rw [Program.bind_assoc]
      change (gate.tenants.find _).bind _ = (gate.tenants.find _).bind _
      congr 1
      funext found
      cases found <;> rfl

/-- A call to the directory or the cache in front of it. -/
def IsLookup : Call → Prop
  | .lookup _ | .readCache _ | .writeCache _ _ _ => True
  | _ => False

theorem IsLookup.isPreliminary {call : Call} (h : IsLookup call) : IsPreliminary call := by
  cases call <;> trivial

theorem obeys_find (dispatcher : Tenant.Dispatcher) (domain : String) :
    (dispatcher.find domain).Obeys (fun call holds => IsLookup call ∧ holds = [])
      fun _ => True := by
  induction dispatcher with
  | directory => exact ⟨⟨trivial, rfl⟩, fun _ => trivial⟩
  | table =>
      refine ⟨⟨trivial, rfl⟩, fun answer => ?_⟩
      cases answer with
      | ok id => trivial
      | error error => cases error <;> trivial
  | cached cache inner ih =>
      have hRead : (cache.read domain).Obeys (fun call holds => IsLookup call ∧ holds = [])
          fun _ => True := by
        refine ⟨⟨trivial, rfl⟩, fun answer => ?_⟩
        cases answer <;> trivial
      have hWrite (id : String) : (cache.write domain id).Obeys
          (fun call holds => IsLookup call ∧ holds = []) fun _ => True := by
        refine ⟨⟨trivial, rfl⟩, fun answer => ?_⟩
        cases answer <;> trivial
      rw [Tenant.Dispatcher.find]
      refine hRead.bind fun cached => ?_
      cases cached with
      | some id => trivial
      | none =>
          refine ih.bind fun found => ?_
          cases found with
          | error error => trivial
          | ok id => exact (hWrite id).bind fun _ => trivial

/-- Whatever a dispatcher does to find a domain, it begins no transaction. -/
theorem preliminary_find (dispatcher : Tenant.Dispatcher) (domain : String) :
    Preliminary (dispatcher.find domain) :=
  (obeys_find dispatcher domain).mono fun _ _ h => ⟨h.1.isPreliminary, h.2⟩

theorem obeys_tenantFor (gate : Gate) (request : Http.Request) :
    (tenantFor gate request).Obeys (fun call holds => IsLookup call ∧ holds = [])
      fun _ => True := by
  unfold tenantFor
  dsimp only
  cases (Tenant.effectiveHost? request.headers request.target).bind Tenant.label? with
  | none => trivial
  | some label =>
      refine (obeys_find gate.tenants _).bind fun found => ?_
      cases found <;> trivial

theorem preliminary_tenantFor (gate : Gate) (request : Http.Request) :
    Preliminary (tenantFor gate request) :=
  (obeys_tenantFor gate request).mono fun _ _ h => ⟨h.1.isPreliminary, h.2⟩

/-- The tenant of an admitted request is the dispatcher's answer for the label of its host. -/
theorem tenantFor_ok {gate : Gate} {request : Http.Request} {scene : Scene σ} {tenant : Tenant}
    (h : ((tenantFor gate request).run world deadline scene).ending = .finished (.ok tenant)) :
    ∃ label, Tenant.requestLabel? request.headers request.target = some label ∧
      tenant.domain = String.ofList label ∧
      ((gate.tenants.find tenant.domain).run world deadline scene).ending =
        .finished (.ok tenant.id) := by
  unfold tenantFor at h
  dsimp only at h
  unfold Tenant.requestLabel?
  cases hLabel : (Tenant.effectiveHost? request.headers request.target).bind Tenant.label? with
  | none =>
      rw [hLabel] at h
      cases h
  | some label =>
      rw [hLabel] at h
      dsimp only at h
      obtain ⟨found, hFound, h⟩ := Program.finished_of_run_bind h
      cases found with
      | error error => cases h
      | ok id =>
          cases h
          exact ⟨label, rfl, rfl, hFound⟩

/-! ## Rate limit -/

/-- Either the request is answered, or its later answer is to be changed like this. -/
def quotaFor (gate : Gate) (request : Http.Request) : Program (Except Answer (Answer → Answer)) :=
  let client := String.ofList (RateLimit.client request.headers request.peer)
  let rate := gate.limiter.config.limit.rate
  (gate.limiter.admission client).bind fun
    | .failedOpen => .done (.ok id)
    | .failedClosed => .done (.error (Answer.refuse .rateLimitUnavailable))
    | .decided decision =>
      if decision.allowed then
        .done (.ok fun answer => answer.bind (addQuota rate decision request))
      else
        let wait := RateLimit.retryAfterSeconds decision.retryAfter
        .log (deniedEvent gate client wait) <| .done <| .error <|
          (addQuota rate decision request (tooManyRequests wait)).map fun response =>
            response.setHeader "retry-after" (toString wait)

/-- The stage is a program that counts the request, and then the rest of the stages. -/
theorem limitRate_eq (gate : Gate) (request : Http.Request) (context : Context)
    (next : Context → Program Answer) :
    limitRate gate request context next = (quotaFor gate request).bind fun
      | .error answer => .done answer
      | .ok tell => (next context).bind fun answer => .done (tell answer) := by
  unfold limitRate quotaFor
  dsimp only
  rw [Program.bind_assoc]
  change (gate.limiter.admission _).bind _ = (gate.limiter.admission _).bind _
  congr 1
  funext admission
  cases admission with
  | failedOpen => exact (Program.bind_done (next context)).symm
  | failedClosed => rfl
  | decided decision =>
      dsimp only
      cases decision.allowed <;> rfl

theorem preliminary_quotaFor (gate : Gate) (request : Http.Request) :
    Preliminary (quotaFor gate request) := by
  have hAdmission (client : String) : Preliminary (gate.limiter.admission client) := by
    refine ⟨⟨trivial, rfl⟩, fun answer => ?_⟩
    cases answer with
    | none => trivial
    | some answer => cases answer <;> trivial
  refine (hAdmission _).bind fun admission => ?_
  cases admission with
  | failedOpen => trivial
  | failedClosed => trivial
  | decided decision =>
      dsimp only
      cases decision.allowed <;> trivial

/-- What the limiter adds to an answer leaves a panic alone. -/
theorem quotaFor_panic {gate : Gate} {request : Http.Request} {scene : Scene σ}
    {tell : Answer → Answer}
    (h : ((quotaFor gate request).run world deadline scene).ending = .finished (.ok tell))
    (panic : Panic) : tell (.error panic) = .error panic := by
  obtain ⟨admission, -, h⟩ := Program.finished_of_run_bind h
  cases admission with
  | failedOpen =>
      cases h
      rfl
  | failedClosed => cases h
  | decided decision =>
      dsimp only at h
      cases hAllowed : decision.allowed with
      | false =>
          rw [hAllowed] at h
          cases h
      | true =>
          rw [hAllowed] at h
          cases h
          rfl

/-! ## Authorization -/

/-- The claims that a request can show for itself. -/
def Shows (gate : Gate) (request : Http.Request) (claims : Token.Claims) : Prop :=
  ∃ text source, Credential.find request.headers gate.cookieFallback = .ok (text, source) ∧
    verifyToken gate request (String.ofList text) = .ok (.ok claims)

/-- Everyone is served without claims. The bearer of a token is served with its claims, and only
for the tenant that they name. -/
def Entitled (gate : Gate) (request : Http.Request) (tenant : Tenant) :
    Access → Option Token.Claims → Prop
  | .everyone, shown => shown = none
  | .bearer, shown => ∃ claims, shown = some claims ∧ Shows gate request claims ∧
    claims.tenantId = tenant.id

def claimsFor (gate : Gate) (access : Access) (request : Http.Request) (tenant : Tenant) :
    Program (Except Answer (Option Token.Claims)) :=
  match access with
  | .everyone => .done (.ok none)
  | .bearer =>
    match Credential.find request.headers gate.cookieFallback with
    | .error error => (reject (credentialReason error) []).bind fun answer => .done (.error answer)
    | .ok (text, source) =>
      let token := String.ofList text
      match verifyToken gate request token with
      | .error panic => .done (.error (.error panic))
      | .ok (.ok claims) =>
        if tenant.id = claims.tenantId then .done (.ok (some claims))
        else (reject .tenantMismatch
          [("host_tenant", tenant.id), ("token_tenant", claims.tenantId),
           ("user_id", toString claims.userId)]).bind fun answer => .done (.error answer)
      | .ok (.error error) =>
        (reject (tokenReason error)
          [("source", source.describe), ("token", fingerprint token)]).bind fun answer =>
            .done (.error answer)

/-- The stage is a program that verifies the token, and then the rest of the stages. -/
theorem authorize_eq (gate : Gate) (access : Access) (request : Http.Request) (tenant : Tenant)
    (next : Context → Program Answer) :
    authorize gate access request ⟨some tenant, none, none⟩ next =
      (claimsFor gate access request tenant).bind fun
        | .error answer => .done answer
        | .ok claims => next ⟨some tenant, claims, none⟩ := by
  unfold authorize claimsFor
  cases access with
  | everyone => rfl
  | bearer =>
      dsimp only
      cases Credential.find request.headers gate.cookieFallback with
      | error error => rfl
      | ok found =>
          dsimp only
          cases verifyToken gate request (String.ofList found.1) with
          | error panic => rfl
          | ok verified =>
              cases verified with
              | error error => rfl
              | ok claims =>
                  dsimp only [checkTenant]
                  split <;> rfl

theorem preliminary_claimsFor (gate : Gate) (access : Access) (request : Http.Request)
    (tenant : Tenant) : Preliminary (claimsFor gate access request tenant) := by
  unfold claimsFor
  split
  · trivial
  · split
    · trivial
    · dsimp only
      split
      · trivial
      · split <;> trivial
      · trivial

/-- Whoever is let through is entitled to it. -/
theorem claimsFor_ok {gate : Gate} {access : Access} {request : Http.Request} {tenant : Tenant}
    {scene : Scene σ} {shown : Option Token.Claims}
    (h : ((claimsFor gate access request tenant).run world deadline scene).ending =
      .finished (.ok shown)) :
    Entitled gate request tenant access shown := by
  unfold claimsFor at h
  cases access with
  | everyone =>
      cases h
      rfl
  | bearer =>
      dsimp only at h
      cases hFound : Credential.find request.headers gate.cookieFallback with
      | error error =>
          rw [hFound] at h
          cases h
      | ok found =>
          rw [hFound] at h
          dsimp only at h
          cases hVerified : verifyToken gate request (String.ofList found.1) with
          | error panic =>
              rw [hVerified] at h
              cases h
          | ok verified =>
              rw [hVerified] at h
              cases verified with
              | error error => cases h
              | ok claims =>
                  dsimp only at h
                  split at h
                  · next hTenant =>
                    cases h
                    exact ⟨claims, rfl, ⟨found.1, found.2, hFound, hVerified⟩, hTenant.symm⟩
                  · cases h

/-! ## All three -/

/-- What is known of a request that has passed the stages before the isolation stage. -/
structure Admitted where
  tenant : Tenant
  claims : Option Token.Claims
  /-- How the answer of the request is changed on its way back. -/
  tell : Answer → Answer

/-- The context of an admitted request, once its transaction is bound. -/
def Admitted.context (admitted : Admitted) : Context :=
  ⟨some admitted.tenant, admitted.claims, some admitted.tenant.id⟩

def admitRequest (gate : Gate) (access : Access) (request : Http.Request) :
    Program (Except Answer Admitted) :=
  (tenantFor gate request).bind fun
    | .error answer => .done (.error answer)
    | .ok tenant => (quotaFor gate request).bind fun
      | .error answer => .done (.error answer)
      | .ok tell => (claimsFor gate access request tenant).bind fun
        | .error answer => .done (.error (tell answer))
        | .ok claims => .done (.ok ⟨tenant, claims, tell⟩)

/-- All that a request goes through before its handler: it is admitted, and its transaction is
opened and bound. -/
def approach (gate : Gate) (access : Access) (request : Http.Request) :
    Program (Except Answer Admitted) :=
  (admitRequest gate access request).bind fun
    | .error answer => .done (.error answer)
    | .ok admitted => (opening gate.tenantSetting admitted.tenant.id).bind fun
      | .error answer => .done (.error (admitted.tell answer))
      | .ok () => .done (.ok admitted)

/-- The stages are the approach, the handler on the bound transaction, and the way back. -/
theorem apply_eq (gate : Gate) (access : Access) (handler : Handler) (request : Http.Request) :
    apply gate access handler request = (approach gate access request).bind fun
      | .error answer => .done answer
      | .ok admitted =>
        (serveBound admitted.tenant.id ⟨some admitted.tenant, admitted.claims, none⟩
          (handler request)).bind fun answer => .done (admitted.tell answer) := by
  rw [apply, resolveTenant_eq, approach, admitRequest, Program.bind_assoc, Program.bind_assoc]
  congr 1
  funext found
  cases found with
  | error answer => rfl
  | ok tenant =>
      dsimp only
      rw [limitRate_eq, Program.bind_assoc]
      congr 1
      funext quota
      cases quota with
      | error answer => rfl
      | ok tell =>
          dsimp only [Context.fresh]
          rw [authorize_eq, Program.bind_assoc, Program.bind_assoc]
          congr 1
          funext shown
          cases shown with
          | error answer => rfl
          | ok claims =>
              dsimp only [Program.bind]
              rw [isolate_eq gate rfl, Program.bind_assoc, Program.bind_assoc]
              congr 1
              funext opened
              cases opened <;> rfl

/-- The three stages before the transaction make preliminary calls only. -/
theorem preliminary_admitRequest (gate : Gate) (access : Access) (request : Http.Request) :
    Preliminary (admitRequest gate access request) := by
  refine (preliminary_tenantFor gate request).bind fun found => ?_
  cases found with
  | error answer => trivial
  | ok tenant =>
      refine (preliminary_quotaFor gate request).bind fun quota => ?_
      cases quota with
      | error answer => trivial
      | ok tell =>
          refine (preliminary_claimsFor gate access request tenant).bind fun shown => ?_
          cases shown <;> trivial

/-- What holds of an admitted request: its tenant is the dispatcher's answer for its label, it
has shown what it had to show, and a panic of its handler will be passed on. -/
structure Admits (world : World σ) (deadline : Option Duration) (gate : Gate) (access : Access)
    (request : Http.Request) (scene : Scene σ) (admitted : Admitted) : Prop where
  tenant : ∃ label, Tenant.requestLabel? request.headers request.target = some label ∧
    admitted.tenant.domain = String.ofList label ∧
    ((gate.tenants.find admitted.tenant.domain).run world deadline scene).ending =
      .finished (.ok admitted.tenant.id)
  claims : Entitled gate request admitted.tenant access admitted.claims
  panic : ∀ panic, admitted.tell (.error panic) = .error panic

/-- A request that comes through the three stages has met the condition of each of them. -/
theorem admits_of_admitRequest {gate : Gate} {access : Access} {request : Http.Request}
    {scene : Scene σ} {admitted : Admitted}
    (h : ((admitRequest gate access request).run world deadline scene).ending =
      .finished (.ok admitted)) :
    Admits world deadline gate access request scene admitted := by
  obtain ⟨found, hTenant, h⟩ := Program.finished_of_run_bind h
  cases found with
  | error answer => cases h
  | ok tenant =>
      obtain ⟨quota, hQuota, h⟩ := Program.finished_of_run_bind h
      cases quota with
      | error answer => cases h
      | ok tell =>
          obtain ⟨shown, hClaims, h⟩ := Program.finished_of_run_bind h
          cases shown with
          | error answer => cases h
          | ok claims =>
              cases h
              exact ⟨tenantFor_ok hTenant, claimsFor_ok hClaims, quotaFor_panic hQuota⟩

/-- What an approach comes to when its opening has come to something. -/
def Admitted.afterOpening (admitted : Admitted) :
    Ending (Except Answer Unit) → Ending (Except Answer Admitted)
  | .dropped holds => .dropped holds
  | .finished (.error answer) => .finished (.error (admitted.tell answer))
  | .finished (.ok ()) => .finished (.ok admitted)

/-- All the ways in which an approach can go: the request is dropped or answered before there is a
transaction, or it is admitted and a transaction is opened for it in one of the possible ways. -/
inductive Approach (world : World σ) (deadline : Option Duration) (gate : Gate) (access : Access)
    (request : Http.Request) (scene : Scene σ) :
    Ending (Except Answer Admitted) → List Entry → Prop
  | dropped (earlier : List Entry) (hEarlier : ∀ call ∈ callsOf earlier, IsPreliminary call) :
      Approach world deadline gate access request scene (.dropped []) earlier
  | answered (earlier : List Entry) (hEarlier : ∀ call ∈ callsOf earlier, IsPreliminary call)
      (answer : Answer) :
      Approach world deadline gate access request scene (.finished (.error answer)) earlier
  | admitted (earlier : List Entry) (hEarlier : ∀ call ∈ callsOf earlier, IsPreliminary call)
      (admitted : Admitted) (hAdmits : Admits world deadline gate access request scene admitted)
      (ending : Ending (Except Answer Unit)) (trace : List Entry)
      (hOpening : Opening gate.tenantSetting admitted.tenant.id ending trace) :
      Approach world deadline gate access request scene (admitted.afterOpening ending)
        (earlier ++ trace)

variable (world deadline) in
/-- How a request fares up to its transaction, with each way that this can end. -/
theorem run_approach (gate : Gate) (access : Access) (request : Http.Request) (scene : Scene σ) :
    Approach world deadline gate access request scene
      ((approach gate access request).run world deadline scene).ending
      ((approach gate access request).run world deadline scene).trace := by
  obtain ⟨hCalls, -, hHolds⟩ :=
    (preliminary_admitRequest gate access request).run world deadline scene trivial
  have hEarlier : ∀ call ∈ callsOf
      ((admitRequest gate access request).run world deadline scene).trace,
      IsPreliminary call := fun call hCall => (hCalls call hCall).choose_spec.1
  rw [approach]
  cases hAdmit : ((admitRequest gate access request).run world deadline scene).ending with
  | dropped holds =>
      obtain ⟨-, -, rfl⟩ := hHolds holds hAdmit
      rw [Program.run_bind_of_dropped hAdmit]
      exact .dropped _ hEarlier
  | finished result =>
      rw [Program.run_bind_of_finished hAdmit]
      cases result with
      | error answer =>
          simpa [Program.run] using .answered _ hEarlier answer
      | ok admitted =>
          have hAdmits := admits_of_admitRequest hAdmit
          generalize (admitRequest gate access request).run world deadline scene = first
            at hEarlier ⊢
          have hOpening :=
            run_opening world deadline gate.tenantSetting admitted.tenant.id first.scene
          dsimp only
          rw [Program.run_bind]
          cases hOpen : ((opening gate.tenantSetting admitted.tenant.id).run world deadline
              first.scene).ending with
          | dropped holds =>
              rw [hOpen] at hOpening
              rw [Outcome.andThen_of_dropped hOpen]
              exact .admitted _ hEarlier admitted hAdmits _ _ hOpening
          | finished opened =>
              rw [hOpen] at hOpening
              rw [Outcome.andThen_of_finished hOpen]
              have hAdmitted := Approach.admitted _ hEarlier admitted hAdmits _ _ hOpening
              cases opened <;> simpa [Program.run, Admitted.afterOpening] using hAdmitted

variable {gate : Gate} {access : Access} {request : Http.Request} {scene : Scene σ}

/-- A request that reaches its handler was admitted, and then its transaction was begun and bound,
with nothing in between. -/
theorem approach_admitted {admitted : Admitted}
    (h : ((approach gate access request).run world deadline scene).ending =
      .finished (.ok admitted)) :
    Admits world deadline gate access request scene admitted ∧
      ∃ earlier, (∀ call ∈ callsOf earlier, IsPreliminary call) ∧
        ((approach gate access request).run world deadline scene).trace =
          earlier ++ [.answered .begin (.ok ()),
            .answered (.bind gate.tenantSetting admitted.tenant.id) (.ok ())] := by
  have hRun := run_approach world deadline gate access request scene
  generalize (approach gate access request).run world deadline scene = outcome at h hRun ⊢
  obtain ⟨ending, after, trace⟩ := outcome
  dsimp only at h hRun ⊢
  cases hRun with
  | dropped => cases h
  | answered => cases h
  | admitted earlier hEarlier admitted hAdmits ending trace hOpening =>
      cases hOpening with
      | opened =>
          cases h
          exact ⟨hAdmits, earlier, hEarlier, rfl⟩
      | beginDropped => cases h
      | beginFailed => cases h
      | bindDropped => cases h
      | rollbackDropped => cases h
      | rolledBack => cases h

/-- The calls of an approach. What it binds a transaction to is the tenant of the request. -/
theorem approach_calls (call : Call)
    (h : call ∈ callsOf ((approach gate access request).run world deadline scene).trace) :
    IsPreliminary call ∨ call = .begin ∨ call = .rollback ∨
      ∃ admitted, Admits world deadline gate access request scene admitted ∧
        call = .bind gate.tenantSetting admitted.tenant.id := by
  have hRun := run_approach world deadline gate access request scene
  generalize (approach gate access request).run world deadline scene = outcome at h hRun
  obtain ⟨ending, after, trace⟩ := outcome
  dsimp only at h hRun
  cases hRun with
  | dropped _ hEarlier => exact .inl (hEarlier call h)
  | answered _ hEarlier => exact .inl (hEarlier call h)
  | admitted earlier hEarlier admitted hAdmits ending trace hOpening =>
      rw [callsOf_append, List.mem_append] at h
      rcases h with h | h
      · exact .inl (hEarlier call h)
      · rcases opening_calls hOpening call h with rfl | rfl | rfl
        · exact .inr (.inl rfl)
        · exact .inr (.inr (.inr ⟨admitted, hAdmits, rfl⟩))
        · exact .inr (.inr (.inl rfl))

end Pipeline

end Gatehouse
