import Gatehouse.Proofs.Finalization
import Gatehouse.Proofs.Outage

/-! The ids of requests on their responses. The stages set few headers, and the handlers of the
application set none but the type of their content, so that the boundary alone puts ids on
responses. It puts one on every response that comes from the routes, and on that to a request that
is too large. A timeout is told of without an id. -/
namespace Gatehouse

/-- The answer is no response with this header. -/
def Answer.Lacks (name : String) (answer : Answer) : Prop :=
  ∀ response, answer = .ok response → response.headers.values name = []

/-! ## Stages -/

namespace Pipeline

/-- The headers that the stages set. -/
def stageHeaders : List String := ["content-type", "retry-after"] ++ quotaHeaders

variable {name : String} {gate : Gate} {request : Http.Request} {context : Context}
  {next : Context → Program Answer}

theorem lacks_panic (name : String) (panic : Panic) : Answer.Lacks name (.error panic) := nofun

theorem lacks_bare (name : String) (status : Nat) : Answer.Lacks name (.ok (.bare status)) := by
  rintro response ⟨⟩
  rfl

theorem lacks_json (hName : name ∉ stageHeaders) (status : Nat) (body : Json String) :
    Answer.Lacks name (.ok (.json status body)) := by
  rintro response ⟨⟩
  have hType : name ≠ "content-type" := fun hEq => hName (hEq ▸ by decide)
  simp [Http.Response.json, Http.Headers.values, hType.symm]

theorem lacks_refuse (hName : name ∉ stageHeaders) (refusal : Refusal) :
    Answer.Lacks name (Answer.refuse refusal) :=
  lacks_json hName _ _

theorem values_setHeader (hName : name ∉ stageHeaders) {other : String}
    (hOther : other ∈ stageHeaders) (value : String) (response : Http.Response) :
    (response.setHeader other value).headers.values name = response.headers.values name :=
  Http.Headers.values_set_of_ne _ (fun hEq : name = other => hName (hEq ▸ hOther)) _

/-- To tell a quota adds no header but its own three. -/
theorem lacks_addQuota (hName : name ∉ stageHeaders) (rate : Nat) (decision : RateLimit.Decision)
    (request : Http.Request) {response : Http.Response} (h : Answer.Lacks name (.ok response)) :
    Answer.Lacks name (addQuota rate decision request response) := by
  cases hReset : resetOf request decision with
  | error panic =>
      rw [addQuota_error hReset]
      exact lacks_panic name panic
  | ok reset =>
      rw [addQuota_ok hReset]
      rintro told ⟨⟩
      unfold setQuota
      rw [values_setHeader hName (by decide), values_setHeader hName (by decide),
        values_setHeader hName (by decide), h response rfl]

theorem lacks_denied (hName : name ∉ stageHeaders) (rate wait : Nat)
    (decision : RateLimit.Decision) (request : Http.Request) :
    Answer.Lacks name ((addQuota rate decision request (tooManyRequests wait)).map fun response =>
      response.setHeader "retry-after" (toString wait)) := by
  have hTold := lacks_addQuota hName rate decision request
    (show Answer.Lacks name (.ok (tooManyRequests wait)) from lacks_json hName 429 _)
  cases hAnswer : addQuota rate decision request (tooManyRequests wait) with
  | error panic => exact lacks_panic name panic
  | ok told =>
      rintro response ⟨⟩
      rw [values_setHeader hName (by decide), hTold told hAnswer]

/-- The stages add no header but their own: here the tenant is resolved. -/
theorem yields_lacks_resolveTenant (hName : name ∉ stageHeaders)
    (hNext : ∀ context, (next context).Yields (Answer.Lacks name)) :
    (resolveTenant gate request context next).Yields (Answer.Lacks name) := by
  unfold resolveTenant
  dsimp only
  split
  · exact lacks_refuse hName .tenantUnresolved
  · refine (Program.yields_true _).bind fun found _ => ?_
    cases found with
    | error error => exact lacks_refuse hName .tenantUnresolved
    | ok id => exact hNext _

theorem yields_lacks_limitRate (hName : name ∉ stageHeaders)
    (hNext : (next context).Yields (Answer.Lacks name)) :
    (limitRate gate request context next).Yields (Answer.Lacks name) := by
  refine (Program.yields_true _).bind fun admission _ => ?_
  cases admission with
  | failedOpen => exact hNext
  | failedClosed => exact lacks_refuse hName .rateLimitUnavailable
  | decided decision =>
      dsimp only
      split
      · refine hNext.bind fun answer hAnswer => ?_
        cases answer with
        | error panic => exact lacks_panic name panic
        | ok response => exact lacks_addQuota hName _ decision request hAnswer
      · exact lacks_denied hName _ _ decision request

theorem yields_lacks_authorize (hName : name ∉ stageHeaders) (access : Access)
    (hNext : ∀ context, (next context).Yields (Answer.Lacks name)) :
    (authorize gate access request context next).Yields (Answer.Lacks name) := by
  have hReject (reason : UnauthorizedReason) (details : List (String × String)) :
      (reject reason details).Yields (Answer.Lacks name) :=
    lacks_refuse hName (.unauthorized reason)
  unfold authorize
  split
  · exact hNext context
  · split
    · exact hReject _ _
    · dsimp only
      split
      · exact lacks_panic name _
      · unfold checkTenant
        split
        · exact hNext _
        · split
          · exact hNext _
          · exact hReject _ _
      · exact hReject _ _

/-- A transaction that ends adds no header. -/
theorem yields_lacks_finish (hName : name ∉ stageHeaders) (tenant : String) {answer : Answer}
    (h : answer.Lacks name) : (finish tenant answer).Yields (Answer.Lacks name) := by
  unfold finish
  split
  · exact (Program.yields_true _).bind fun _ _ => h
  · split
    · exact (Program.yields_true _).bind fun _ _ => h
    · intro committed
      cases committed with
      | ok value => exact h
      | error error => exact lacks_refuse hName .internal

theorem yields_lacks_serveBound (hName : name ∉ stageHeaders) (tenant : String)
    {handler : Context → Handling Answer}
    (hHandler : ∀ context, (handler context).toProgram.Yields (Answer.Lacks name)) :
    (serveBound tenant context handler).Yields (Answer.Lacks name) := by
  rw [serveBound_eq]
  intro _
  apply ((hHandler _).holding (.rollback tenant)).bind
  intro answer hAnswer
  refine (Program.yields_true _).bind fun taken _ => ?_
  cases taken with
  | some value => exact yields_lacks_finish hName tenant hAnswer
  | none => exact lacks_refuse hName .internal

/-- What the handler does not add is not added around it. -/
theorem yields_lacks_isolate (hName : name ∉ stageHeaders) {handler : Context → Handling Answer}
    (hHandler : ∀ context, (handler context).toProgram.Yields (Answer.Lacks name)) :
    (isolate gate context handler).Yields (Answer.Lacks name) := by
  unfold isolate
  split
  · exact lacks_refuse hName .tenantUnresolved
  · intro began
    cases began with
    | error error => exact lacks_refuse hName .internal
    | ok value =>
        intro bound
        cases bound with
        | ok value => exact yields_lacks_serveBound hName _ hHandler
        | error error =>
            exact (Program.yields_true (Program.rollBack "bind_failed")).bind
              fun _ _ => lacks_refuse hName .internal

/-- A header that neither the stages nor a handler sets is not on the response. -/
theorem yields_lacks_apply (hName : name ∉ stageHeaders) (gate : Gate) (access : Access)
    {handler : Handler}
    (hHandler : ∀ request context,
      (handler request context).toProgram.Yields (Answer.Lacks name)) :
    (apply gate access handler request).Yields (Answer.Lacks name) := by
  apply yields_lacks_resolveTenant hName
  intro context
  apply yields_lacks_limitRate hName
  apply yields_lacks_authorize hName
  intro context
  exact yields_lacks_isolate hName (hHandler request)

end Pipeline

/-! ## The application -/

namespace Site

open Pipeline

variable {σ : Type} {name : String}

theorem yields_lacks_health (hName : name ∉ stageHeaders) (request : Http.Request)
    (context : Context) : (health request context).toProgram.Yields (Answer.Lacks name) :=
  lacks_json hName _ _

theorem yields_lacks_me (hName : name ∉ stageHeaders) (request : Http.Request)
    (context : Context) : (me request context).toProgram.Yields (Answer.Lacks name) := by
  obtain ⟨tenant, claims, transaction⟩ := context
  cases tenant with
  | none => exact lacks_refuse hName .tenantUnresolved
  | some tenant =>
      cases claims with
      | none => exact lacks_refuse hName _
      | some claims => exact lacks_json hName _ _

/-- The handlers of the application add no header of that name either. -/
theorem yields_lacks_currentTenant (hName : name ∉ stageHeaders) (gate : Gate)
    (request : Http.Request) (context : Context) :
    (currentTenant gate request context).toProgram.Yields (Answer.Lacks name) := by
  obtain ⟨tenant, claims, transaction⟩ := context
  cases tenant with
  | none => exact lacks_refuse hName .tenantUnresolved
  | some tenant =>
      cases transaction with
      | none => exact lacks_refuse hName .internal
      | some bound =>
          simp only [currentTenant, Context.requireTenant, Context.requireTransaction,
            Handling.setting, bind, Handling.bind, Handling.toProgram]
          refine (Program.yields_true _).bind fun locked _ => ?_
          cases locked with
          | error error => exact lacks_refuse hName .internal
          | ok value =>
              intro answer
              cases answer with
              | ok value => exact lacks_json hName _ _
              | error detail => exact lacks_refuse hName .internal

theorem yields_lacks_readOnly {handler : Handler} {request : Http.Request} {context : Context}
    (h : (handler request context).toProgram.Yields (Answer.Lacks name)) :
    (readOnly handler request context).toProgram.Yields (Answer.Lacks name) := by
  unfold readOnly
  split
  · exact h
  · exact lacks_bare name 405

/-- What the routes of the application answer has no other headers than those of the stages. -/
theorem yields_lacks_dispatch (hName : name ∉ stageHeaders) (gate : Gate)
    (request : Http.Request) :
    (dispatch (application gate) request).Yields (Answer.Lacks name) := by
  unfold dispatch
  cases hRoute : find? (application gate) request with
  | none => exact lacks_bare name 404
  | some route =>
      have hMem := List.mem_of_find?_eq_some hRoute
      simp only [application, List.mem_cons, List.not_mem_nil, or_false] at hMem
      rcases hMem with rfl | rfl | rfl
      · exact yields_lacks_readOnly (yields_lacks_health hName request .fresh)
      · exact yields_lacks_apply hName gate .everyone fun request context =>
          yields_lacks_readOnly (yields_lacks_currentTenant hName gate request context)
      · exact yields_lacks_apply hName gate .bearer fun request context =>
          yields_lacks_readOnly (yields_lacks_me hName request context)

/-- Where there is no id the one of the request is told. -/
theorem addRequestId_values_self {id : Bytes} {response : Http.Response}
    (h : response.headers.values "x-request-id" = []) :
    (addRequestId id response).headers.values "x-request-id" = [id] := by
  have hMissing : response.headers.contains "x-request-id" = false := by
    simpa [Http.Headers.contains, Http.Headers.values] using h
  rw [addRequestId, hMissing, if_neg Bool.false_ne_true, Http.Headers.values_set_self]

/-- The boundary puts the id on a response that has none. -/
theorem values_complete_addRequestId (route : Option Route) (request : Http.Request) (id : Bytes)
    {response : Http.Response} (h : response.headers.values "x-request-id" = []) :
    (complete route request (addRequestId id response)).headers.values "x-request-id" = [id] := by
  rw [complete_values _ _ _ (by decide) (by decide), addRequestId_values_self h]

/-- A panic is answered without an id of its own. -/
theorem recovered_lacks {answer : Answer} (h : answer.Lacks "x-request-id") :
    (recovered answer).headers.values "x-request-id" = [] := by
  cases answer with
  | ok response => exact h response rfl
  | error panic => rfl

/-- Whatever a request is told, it is told with its id, just once: the first that its client gave
it, or a fresh one. This holds for a path that leads nowhere, for every refusal of a stage, for a
panic and for a request that is too large. But a request on which the time runs out is told of that
without an id. A client that stays is always told something. -/
theorem id_told_unless_timed_out (gate : Gate) (timeout : Duration) (world : World σ)
    (patience : Patience) (freshId : Bytes) (request : Http.Request) (scene : Scene σ) :
    let server : Server := ⟨application gate, some timeout⟩
    let routed := (dispatch server.routes request).run world (server.limit patience) scene
    let received := server.receive world patience freshId request scene
    (patience = .stays → ∃ response, received.1 = .response response) ∧
    ∀ response, received.1 = .response response →
      (response.headers.values "x-request-id" =
          [(request.headers.first? "x-request-id").getD freshId] ↔
        isTooLarge request = true ∨ ∃ answer, routed.ending = .finished answer) ∧
      (response.headers.values "x-request-id" ≠
          [(request.headers.first? "x-request-id").getD freshId] →
        response.status = 408 ∧ response.headers.values "x-request-id" = []) := by
  intro server routed received
  constructor
  · rintro rfl
    exact Server.exists_response_of_stays rfl
  intro response hResponse
  -- A request that is too large is answered in time even where the routes would not have been.
  cases hLarge : isTooLarge request with
  | true =>
      have hReceived : received = _ := Server.receive_of_tooLarge rfl hLarge world freshId
      rw [hReceived] at hResponse
      cases hResponse
      have hNone : tooLarge.headers.values "x-request-id" = [] := rfl
      have hId := values_complete_addRequestId (find? server.routes request) request
        (requestId request freshId) hNone
      exact ⟨⟨fun _ => .inl rfl, fun _ => hId⟩, fun hOther => (hOther hId).elim⟩
  | false =>
      have hAnswering := Server.answering_of_receive rfl hResponse
      generalize (server.receive world patience freshId request scene).2.2 = trace at hAnswering
      cases hAnswering with
      | tooLarge h => cases hLarge.symm.trans h
      | answered answer hEnding =>
          have hName : "x-request-id" ∉ stageHeaders := by decide
          have hLacks := (yields_lacks_dispatch hName gate request).run hEnding
          have hId := values_complete_addRequestId (find? server.routes request) request
            (requestId request freshId) (recovered_lacks hLacks)
          exact ⟨⟨fun _ => .inr ⟨answer, hEnding⟩, fun _ => hId⟩, fun hOther => (hOther hId).elim⟩
      | timedOut holds hEnding runtime =>
          have hNone := complete_values (find? server.routes request) request (.bare 408)
            (by decide : "x-request-id" ≠ "allow") (by decide)
          refine ⟨⟨fun hId => ?_, ?_⟩, fun _ => ⟨by simp [Http.Response.bare], hNone⟩⟩
          · cases hNone.symm.trans hId
          · rintro (h | ⟨answer, hFinished⟩)
            · cases h
            · cases hEnding.symm.trans hFinished

/-- Posts to a path that can only be read, under two ids. -/
def namedRequest : Http.Request :=
  { tenantRequest with
    method := "POST"
    headers := (tenantRequest.headers.add "x-request-id" [97]).add "x-request-id" [98] }

/-- Of several ids that a request brings, the first is told. -/
theorem first_id_told :
    let received := (Server.mk (application sampleGate) (some (.ofSeconds 30))).receive
      (sampleWorld .zero) .stays [] namedRequest (.fresh ())
    ∃ response, received.1 = .response response ∧ response.status = 405 ∧
      response.headers.values "x-request-id" = [[97]] := by
  intro received
  obtain ⟨hAnswered, hTold⟩ := id_told_unless_timed_out sampleGate (.ofSeconds 30)
    (sampleWorld .zero) .stays [] namedRequest (.fresh ())
  obtain ⟨response, hResponse⟩ := hAnswered rfl
  obtain ⟨hId, -⟩ := hTold response hResponse
  have hStatus : response.status = 405 := by
    cases hResponse.symm.trans (show received.1 = .response _ from rfl)
    rfl
  exact ⟨response, hResponse, hStatus, hId.mpr (.inr ⟨_, rfl⟩)⟩

/-- The time runs out while the transaction is bound. The client is told so, but not under the id
that it has given its request. -/
theorem id_lost_on_timeout :
    let received := (Server.mk (application sampleGate) (some (.ofSeconds 30))).receive
      (sampleWorld (.ofSeconds 60)) .stays [] namedRequest (.fresh ())
    namedRequest.headers.first? "x-request-id" = some [97] ∧
      ∃ response, received.1 = .response response ∧ response.status = 408 ∧
        response.headers.values "x-request-id" = [] := by
  exact ⟨rfl, _, rfl, rfl, rfl⟩

end Site

end Gatehouse
