import Gatehouse.Proofs.Finalization
import Gatehouse.Proofs.QuotaHeaders

/-! Operations for everyone. What stands before their handlers does not look at the credentials of a
request: it does the same whatever these are, no token is verified, and no handler is shown claims.
The boundary does not look at them either. -/
namespace Gatehouse

/-! ## Credentials -/

/-- The headers that may hold a token. -/
def Credential.headerNames : List String := ["authorization", "cookie"]

/-- The request without its credentials. -/
def Http.Request.withoutCredentials (request : Http.Request) : Http.Request :=
  { request with
    headers := ⟨request.headers.fields.filter fun field => field.1 ∉ Credential.headerNames⟩ }

/-- What does not hold credentials is kept. -/
theorem Http.Request.values_withoutCredentials (request : Http.Request) {name : String}
    (hName : name ∉ Credential.headerNames) :
    request.withoutCredentials.headers.values name = request.headers.values name := by
  simp only [Http.Headers.values, withoutCredentials, List.filter_filter]
  congr 1
  apply List.filter_congr
  intro field _
  by_cases hField : field.1 = name
  · simp [hField, hName]
  · simp [hField]

/-- Two requests that have the same in them, their credentials apart. -/
def SameButCredentials (first second : Http.Request) : Prop :=
  first.withoutCredentials = second.withoutCredentials

namespace SameButCredentials

variable {first second : Http.Request}

theorem method (h : SameButCredentials first second) : first.method = second.method :=
  congrArg (fun request => request.method) h

theorem target (h : SameButCredentials first second) : first.target = second.target :=
  congrArg (fun request => request.target) h

theorem peer (h : SameButCredentials first second) : first.peer = second.peer :=
  congrArg (fun request => request.peer) h

theorem now (h : SameButCredentials first second) : first.now = second.now :=
  congrArg (fun request => request.now) h

/-- A header that is no credential has the same values. -/
theorem values (h : SameButCredentials first second) (name : String)
    (hName : name ∉ Credential.headerNames) :
    first.headers.values name = second.headers.values name := by
  rw [← first.values_withoutCredentials hName, ← second.values_withoutCredentials hName, h]

theorem first? (h : SameButCredentials first second) (name : String)
    (hName : name ∉ Credential.headerNames) :
    first.headers.first? name = second.headers.first? name := by
  rw [Http.Headers.first?, h.values name hName, Http.Headers.first?]

theorem trimmed? (h : SameButCredentials first second) (name : String)
    (hName : name ∉ Credential.headerNames) :
    first.headers.trimmed? name = second.headers.trimmed? name := by
  rw [Http.Headers.trimmed?, h.first? name hName, Http.Headers.trimmed?]

end SameButCredentials

/-- A handler that does not look at the credentials of its request. -/
def Handler.IgnoresCredentials (handler : Handler) : Prop :=
  ∀ first second, SameButCredentials first second → handler first = handler second

/-! ## Stages -/

namespace Pipeline

variable {gate : Gate} {handler : Handler} {first second : Http.Request}

/-- The host is taken from headers that are no credentials. -/
theorem effectiveHost?_of_same (h : SameButCredentials first second) :
    Tenant.effectiveHost? first.headers first.target =
      Tenant.effectiveHost? second.headers second.target := by
  have hForwarded := h.first? "x-forwarded-host" (by decide)
  have hHost := h.trimmed? "host" (by decide)
  simp only [Tenant.effectiveHost?, Tenant.namedHost?, Tenant.forwardedHost?, hForwarded, hHost,
    h.target]

/-- The client is identified without credentials. -/
theorem client_of_same (h : SameButCredentials first second) :
    RateLimit.client first.headers first.peer = RateLimit.client second.headers second.peer := by
  have hReal := h.trimmed? "x-real-ip" (by decide)
  have hForwarded := h.trimmed? "x-forwarded-for" (by decide)
  simp only [RateLimit.client, RateLimit.forwardedClient?, hReal, hForwarded, h.peer]

theorem addQuota_of_same (h : SameButCredentials first second) (rate : Nat)
    (decision : RateLimit.Decision) :
    addQuota rate decision first = addQuota rate decision second := by
  funext response
  simp only [addQuota, resetOf, timeOf, h.now]

/-- The same tenant is looked for, by the same calls. -/
theorem tenantFor_of_same (h : SameButCredentials first second) :
    tenantFor gate first = tenantFor gate second := by
  simp only [tenantFor, effectiveHost?_of_same h]

/-- The same client is counted. -/
theorem quotaFor_of_same (h : SameButCredentials first second) :
    quotaFor gate first = quotaFor gate second := by
  simp only [quotaFor, client_of_same h, addQuota_of_same h]

/-- Where everyone is served, handlers that do the same without claims are served in the same
way. -/
theorem serveCounted_everyone_congr {other : Handler}
    (h : ∀ context, context.claims = none → handler first context = other second context)
    (tenant : Tenant) :
    serveCounted gate .everyone handler first tenant =
      serveCounted gate .everyone other second tenant := by
  have hBound : serveBound tenant.id ⟨some tenant, none, none⟩ (handler first) =
      serveBound tenant.id ⟨some tenant, none, none⟩ (other second) := by
    unfold serveBound
    rw [h _ rfl]
  unfold serveCounted claimsFor
  simp only [Program.bind, hBound]

/-- What stands before an operation for everyone does the same for requests that are the same but
for their credentials. -/
theorem apply_everyone_congr {other : Handler} (hAlike : SameButCredentials first second)
    (h : ∀ context, context.claims = none → handler first context = other second context) :
    apply gate .everyone handler first = apply gate .everyone other second := by
  rw [apply_eq_serveCounted, apply_eq_serveCounted, tenantFor_of_same hAlike,
    quotaFor_of_same hAlike]
  simp only [serveCounted_everyone_congr h]

/-! ## Services that verify tokens -/

/-- What verifies the tokens of requests. It may ask others, and report what it finds. -/
abbrev Verifier := Http.Request → String → Program (Except Panic (Except Token.Error Token.Claims))

/-- Tokens are verified with the key of the gate, and nobody is asked. -/
def ownVerifier (gate : Gate) : Verifier := fun request token =>
  .done (verifyToken gate request token)

/-- Verifies the token of a request where one is needed, with this service. -/
def authorizeBy (verify : Verifier) (gate : Gate) (access : Access) (request : Http.Request)
    (context : Context) (next : Context → Program Answer) : Program Answer :=
  match access with
  | .everyone => next context
  | .bearer =>
    match Credential.find request.headers gate.cookieFallback with
    | .error error => reject (credentialReason error) []
    | .ok (text, source) =>
      let token := String.ofList text
      (verify request token).bind fun
        | .error panic => .done (.error panic)
        | .ok (.ok claims) => checkTenant context claims next
        | .ok (.error error) =>
          reject (tokenReason error)
            [("source", source.describe), ("token", fingerprint token)]

/-- The stages in their order, with this service to verify tokens. -/
def applyBy (verify : Verifier) (gate : Gate) (access : Access) (handler : Handler)
    (request : Http.Request) : Program Answer :=
  resolveTenant gate request .fresh fun context =>
    limitRate gate request context fun context =>
      authorizeBy verify gate access request context fun context =>
        isolate gate context (handler request)

/-- The stage verifies by the verifier of its own gate. -/
theorem authorize_eq_authorizeBy (gate : Gate) (access : Access) (request : Http.Request)
    (context : Context) (next : Context → Program Answer) :
    authorize gate access request context next =
      authorizeBy (ownVerifier gate) gate access request context next := by
  cases access with
  | everyone => rfl
  | bearer =>
      simp only [authorize, authorizeBy, ownVerifier]
      cases Credential.find request.headers gate.cookieFallback with
      | error error => simp only
      | ok found =>
          cases hVerified : verifyToken gate request (String.ofList found.1) with
          | error panic => simp only [hVerified, Program.bind]
          | ok verified => cases verified <;> simp only [hVerified, Program.bind]

theorem apply_eq_applyBy (gate : Gate) (access : Access) (handler : Handler)
    (request : Http.Request) :
    apply gate access handler request =
      applyBy (ownVerifier gate) gate access handler request := by
  simp only [apply, applyBy, authorize_eq_authorizeBy]

/-- Where everyone is served, it does not matter what verifies tokens. -/
theorem applyBy_everyone (verify : Verifier) (gate : Gate) (handler : Handler)
    (request : Http.Request) :
    applyBy verify gate .everyone handler request = apply gate .everyone handler request := rfl

end Pipeline

/-! ## Servers -/

namespace Site

open Pipeline

variable {σ : Type} {first second : Http.Request}

theorem find?_of_same (h : SameButCredentials first second) (routes : List Route) :
    find? routes first = find? routes second := by
  rw [find?, h.target, find?]

/-- A response is completed alike, since of the request only its method and its target are looked
at. -/
theorem complete_of_same (h : SameButCredentials first second) (route : Option Route) :
    complete route first = complete route second := by
  funext response
  -- The conditions are decided by instances that mention the request, which `simp` leaves alone.
  unfold complete leadsNowhere addAllow isReading
  rw [h.method, h.target]

theorem isTooLarge_of_same (h : SameButCredentials first second) :
    isTooLarge first = isTooLarge second := by
  rw [isTooLarge, h.first? "content-length" (by decide), isTooLarge]

/-- The id of a request is none of its credentials. -/
theorem requestId_of_same (h : SameButCredentials first second) (freshId : Bytes) :
    requestId first freshId = requestId second freshId := by
  rw [requestId, h.first? "x-request-id" (by decide), requestId]

/-- The boundary does the same for two requests for which the routes do the same. -/
theorem receive_of_same (h : SameButCredentials first second) {server : Server}
    (hRouted : dispatch server.routes first = dispatch server.routes second) (world : World σ)
    (patience : Patience) (freshId : Bytes) (scene : Scene σ) :
    server.receive world patience freshId first scene =
      server.receive world patience freshId second scene := by
  simp only [Server.receive, Server.receiveBare, Server.receiveWithin, Server.ofDropped,
    hRouted, find?_of_same h, complete_of_same h, isTooLarge_of_same h, requestId_of_same h]

/-- A handler that ignores credentials does so for requests that only read. -/
theorem ignoresCredentials_readOnly {handler : Handler} (h : handler.IgnoresCredentials) :
    Handler.IgnoresCredentials (readOnly handler) := by
  intro first second hAlike
  funext context
  unfold readOnly isReading
  rw [hAlike.method, h first second hAlike]

/-- On a route for everyone, requests that are the same but for their credentials are served in the
same way: the same is asked and reported, in the same order, and the client is told the same. What
verifies tokens does not matter, whatever it would ask and report. What a handler would do with
claims does not matter either, because it finds none. -/
theorem credentials_ignored {server : Server} {route : Route} {gate : Gate} {handler : Handler}
    (hRoute : find? server.routes first = some route)
    (hServe : route.serve = apply gate .everyone handler) (hHandler : handler.IgnoresCredentials)
    (hAlike : SameButCredentials first second) (world : World σ) (patience : Patience)
    (freshId : Bytes) (scene : Scene σ) :
    server.receive world patience freshId first scene =
        server.receive world patience freshId second scene ∧
      (∀ verify, applyBy verify gate .everyone handler first = route.serve first) ∧
      ∀ other : Handler,
        (∀ context,
          context.requireClaims = .done (.error (.unauthorized .missingCredential)) →
            other first context = handler first context) →
        apply gate .everyone other first = route.serve first := by
  have hSame : apply gate .everyone handler first = apply gate .everyone handler second :=
    apply_everyone_congr hAlike fun context _ => congrFun (hHandler first second hAlike) context
  have hRouted : dispatch server.routes first = dispatch server.routes second := by
    rw [dispatch, dispatch, ← find?_of_same hAlike, hRoute]
    dsimp only
    rw [hServe, hSame]
  refine ⟨receive_of_same hAlike hRouted world patience freshId scene, ?_, ?_⟩
  · intro verify
    rw [hServe, applyBy_everyone]
  · intro other hOther
    rw [hServe]
    refine apply_everyone_congr rfl fun context hClaims => hOther context ?_
    rw [Context.requireClaims, hClaims]

/-- Asks for its tenant with a garbled authorization, which is given twice, and with a cookie. -/
def garbledRequest : Http.Request :=
  { tenantRequest with
    headers := ⟨("authorization", Bytes.ofText "garbage") :: tenantRequest.headers.fields ++
      [("cookie", Bytes.ofText "Authorization=e30.e30"), ("authorization", [255])]⟩ }

/-- A token that nobody could verify changes nothing in the open. -/
theorem garbled_token_ignored :
    let server : Server := ⟨application sampleGate, some (.ofSeconds 30)⟩
    let received := server.receive (sampleWorld .zero) .stays [] garbledRequest (.fresh ())
    received = server.receive (sampleWorld .zero) .stays [] tenantRequest (.fresh ()) ∧
      .commit ∈ callsOf received.2.2 := by
  intro server received
  have hHandler : Handler.IgnoresCredentials (readOnly (currentTenant sampleGate)) :=
    ignoresCredentials_readOnly fun _ _ _ => rfl
  have hRoute : find? server.routes garbledRequest = some ⟨"/api/v1/tenant", true,
      apply sampleGate .everyone (readOnly (currentTenant sampleGate))⟩ := rfl
  have hAlike : SameButCredentials garbledRequest tenantRequest := rfl
  obtain ⟨hSame, -⟩ := credentials_ignored hRoute rfl hHandler hAlike (sampleWorld .zero) .stays []
    (.fresh ())
  exact ⟨hSame, by decide +kernel⟩

end Site

end Gatehouse
