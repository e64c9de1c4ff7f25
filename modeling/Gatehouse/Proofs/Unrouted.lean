import Gatehouse.Proofs.Finalization
import Gatehouse.Proofs.Outage

/-! Requests that no stage sees. The paths of the service are put together from routers, and stages
stand before the endpoints of a router, not before what it does with other paths. A request for a
path that the service does not have, and one that asks whether the service is up, are answered at
once, and nobody is asked about them. -/
namespace Gatehouse.Site

open Pipeline

/-! ## Routers -/

/-- What answers at a path. -/
structure Endpoint (α : Type) where
  path : String
  /-- Only `GET` and `HEAD` reach the handler. -/
  isReadOnly : Bool
  serve : α

/-- What answers at some paths, and what answers at all others. -/
structure Router (α : Type) where
  endpoints : List (Endpoint α)
  fallback : α

/-- What answers a request behind stages, or where there are none. -/
abbrev Responder := Http.Request → Program Answer

namespace Router

variable {α : Type}

def empty : Router Handler :=
  ⟨[], fun _ _ => .done (.ok (.bare 404))⟩

/-- One more path, which can only be read. -/
def get (router : Router Handler) (path : String) (handler : Handler) : Router Handler :=
  { router with endpoints := router.endpoints ++ [⟨path, true, readOnly handler⟩] }

/-- Puts stages before the endpoints. No stage stands before the fallback. -/
def behind (stages : Handler → Responder) (router : Router Handler) : Router Responder :=
  ⟨router.endpoints.map fun endpoint =>
      ⟨endpoint.path, endpoint.isReadOnly, stages endpoint.serve⟩,
    unguarded router.fallback⟩

/-- The endpoints of both, with the fallback of the first. -/
def merge (first second : Router α) : Router α :=
  ⟨first.endpoints ++ second.endpoints, first.fallback⟩

/-- Another router below a path. Only its endpoints are taken over. -/
def nest (router : Router α) (base : String) (inner : Router α) : Router α :=
  { router with
    endpoints := router.endpoints ++ inner.endpoints.map fun endpoint =>
      { endpoint with path := base ++ endpoint.path } }

def paths (router : Router α) : List String :=
  router.endpoints.map Endpoint.path

def routes (router : Router Responder) : List Route :=
  router.endpoints.map fun endpoint => ⟨endpoint.path, endpoint.isReadOnly, endpoint.serve⟩

/-- What the router makes of a request. -/
def serve (router : Router Responder) : Responder := fun request =>
  match router.endpoints.find? fun endpoint => endpoint.path.toList == request.target.path with
  | none => router.fallback request
  | some endpoint => endpoint.serve request

@[simp] theorem paths_empty : empty.paths = [] := rfl

@[simp] theorem paths_get (router : Router Handler) (path : String) (handler : Handler) :
    (router.get path handler).paths = router.paths ++ [path] := by
  simp [paths, get]

@[simp] theorem paths_behind (stages : Handler → Responder) (router : Router Handler) :
    (router.behind stages).paths = router.paths := by
  simp [paths, behind]

@[simp] theorem paths_merge (first second : Router α) :
    (first.merge second).paths = first.paths ++ second.paths := by
  simp [paths, merge]

@[simp] theorem paths_nest (router : Router α) (base : String) (inner : Router α) :
    (router.nest base inner).paths = router.paths ++ inner.paths.map (base ++ ·) := by
  simp [paths, nest, Function.comp_def]

/-- A path leads to the first endpoint that has it. -/
theorem find?_routes (router : Router Responder) (request : Http.Request) :
    find? router.routes request =
      (router.endpoints.find? fun endpoint => endpoint.path.toList == request.target.path).map
        fun endpoint => ⟨endpoint.path, endpoint.isReadOnly, endpoint.serve⟩ :=
  List.find?_map ..

/-- The routes of a router whose fallback finds nothing make of a request what the router makes
of it. -/
theorem dispatch_routes {router : Router Responder}
    (h : ∀ request, router.fallback request = .done (.ok (.bare 404))) (request : Http.Request) :
    dispatch router.routes request = router.serve request := by
  rw [dispatch, find?_routes, serve]
  cases router.endpoints.find? fun endpoint => endpoint.path.toList == request.target.path with
  | none => exact (h request).symm
  | some endpoint => rfl

/-- A path that no router has leads nowhere. -/
theorem find?_endpoints_eq_none {router : Router α} {request : Http.Request}
    (h : request.target.path ∉ router.paths.map String.toList) :
    (router.endpoints.find? fun endpoint => endpoint.path.toList == request.target.path) =
      none := by
  apply List.find?_eq_none.mpr
  intro endpoint hEndpoint hPath
  apply h
  rw [← eq_of_beq hPath]
  exact List.mem_map_of_mem (List.mem_map_of_mem hEndpoint)

/-- A request for a path that the router does not have goes to the fallback. -/
theorem serve_eq_fallback {router : Router Responder} {request : Http.Request}
    (h : request.target.path ∉ router.paths.map String.toList) :
    router.serve request = router.fallback request := by
  rw [serve, find?_endpoints_eq_none h]

end Router

/-- The paths of the first version of the interface. -/
def versionOne (stages : Access → Handler → Responder) (gate : Gate) : Router Responder :=
  ((Router.empty.get "/tenant" (currentTenant gate)).behind (stages .everyone)).merge
    ((Router.empty.get "/me" me).behind (stages .bearer))

/-- The paths of the service. -/
def siteRouter (stages : Access → Handler → Responder) (gate : Gate) : Router Responder :=
  ((Router.empty.get "/health" health).behind unguarded).nest "/api/v1" (versionOne stages gate)

/-- The application has three paths. -/
theorem paths_siteRouter (stages : Access → Handler → Responder) (gate : Gate) :
    (siteRouter stages gate).paths = ["/health", "/api/v1/tenant", "/api/v1/me"] := by
  simp [siteRouter, versionOne]

/-- The routes of the application are those of its router. -/
theorem application_eq_routes (gate : Gate) :
    application gate = (siteRouter (Pipeline.apply gate) gate).routes := rfl

/-- To serve by the router is to serve by its routes. -/
theorem dispatch_siteRouter (stages : Access → Handler → Responder) (gate : Gate)
    (request : Http.Request) :
    dispatch (siteRouter stages gate).routes request = (siteRouter stages gate).serve request :=
  Router.dispatch_routes (fun _ => rfl) request

/-! ## Answers at once -/

/-- Whatever its surroundings are, whether its client stays, and however late it is, the request is
answered with this. Nobody is asked, nothing is reported and nothing is changed. -/
def Server.AnswersAtOnce (server : Server) (freshId : Bytes) (request : Http.Request)
    (response : Http.Response) : Prop :=
  ∀ (σ : Type) (world : World σ) (patience : Patience) (scene : Scene σ),
    server.receive world patience freshId request scene = (.response response, scene, [])

/-- What the boundary makes of an answer that the routes have at once. -/
def atOnce (route : Option Route) (request : Http.Request) (freshId : Bytes)
    (inner : Http.Response) : Http.Response :=
  complete route request (addRequestId (requestId request freshId)
    (if isTooLarge request then tooLarge else inner))

/-- Routes that have their answer at once need nothing. -/
theorem Server.answersAtOnce_of_done {server : Server} {timeout : Duration}
    (hTimeout : server.timeout = some timeout) {request : Http.Request} {inner : Http.Response}
    (h : dispatch server.routes request = .done (.ok inner)) (freshId : Bytes) :
    server.AnswersAtOnce freshId request
      (atOnce (find? server.routes request) request freshId inner) := by
  intro σ world patience scene
  unfold atOnce
  rw [Server.receive, hTimeout]
  dsimp only
  generalize server.patience patience = patience
  rw [Server.receiveWithin, h]
  dsimp only
  split
  · rfl
  -- Nothing is waited for, so that a client that leaves has its answer before it does.
  · cases patience <;> rfl

/-- A request for a path that the service does not have has its answer at once. -/
theorem dispatch_unrouted {request : Http.Request}
    (hPath : request.target.path ∉ ["/health", "/api/v1/tenant", "/api/v1/me"].map String.toList)
    (stages : Access → Handler → Responder) (gate : Gate) :
    find? (siteRouter stages gate).routes request = none ∧
      dispatch (siteRouter stages gate).routes request = .done (.ok (.bare 404)) := by
  rw [← paths_siteRouter stages gate] at hPath
  constructor
  · rw [Router.find?_routes, Router.find?_endpoints_eq_none hPath]
    rfl
  · rw [dispatch_siteRouter, Router.serve_eq_fallback hPath]
    rfl

/-- So has a request that asks whether the service is up. -/
theorem dispatch_health {request : Http.Request}
    (hPath : request.target.path = "/health".toList) (stages : Access → Handler → Responder)
    (gate : Gate) :
    find? (siteRouter stages gate).routes request =
        some ⟨"/health", true, unguarded (readOnly health)⟩ ∧
      dispatch (siteRouter stages gate).routes request =
        unguarded (readOnly health) request := by
  have hFound : find? (siteRouter stages gate).routes request =
      some ⟨"/health", true, unguarded (readOnly health)⟩ := by
    rw [find?, hPath]
    rfl
  exact ⟨hFound, by rw [dispatch, hFound]⟩

/-- Where a request for neither of two paths leads and what its answer is, no stage decides. -/
theorem exists_dispatch_eq_done {request : Http.Request}
    (hPath : request.target.path ∉ ["/api/v1/tenant", "/api/v1/me"].map String.toList)
    (gate : Gate) :
    ∃ route inner,
      (∀ stages, find? (siteRouter stages gate).routes request = route ∧
        dispatch (siteRouter stages gate).routes request = .done (.ok inner)) ∧
      (request.target.path ≠ "/health".toList → route = none ∧ inner = .bare 404) := by
  by_cases hHealth : request.target.path = "/health".toList
  · have hDone : ∃ inner, unguarded (readOnly health) request = .done (.ok inner) := by
      unfold unguarded readOnly
      split
      · exact ⟨_, rfl⟩
      · exact ⟨_, rfl⟩
    obtain ⟨inner, hInner⟩ := hDone
    refine ⟨some ⟨"/health", true, unguarded (readOnly health)⟩, inner, fun stages => ?_,
      fun hOther => (hOther hHealth).elim⟩
    rw [← hInner]
    exact dispatch_health hHealth stages gate
  · have hUnrouted : request.target.path ∉
        ["/health", "/api/v1/tenant", "/api/v1/me"].map String.toList :=
      List.not_mem_cons_of_ne_of_not_mem hHealth hPath
    exact ⟨none, .bare 404, fun stages => dispatch_unrouted hUnrouted stages gate,
      fun _ => ⟨rfl, rfl⟩⟩

/-- Nothing was found, and no more is told but the id of the request and, unless the target is a
path, that the body is empty. -/
structure IsPlainNotFound (id : Bytes) (response : Http.Response) : Prop where
  status : response.status = 404
  body : response.body = ""
  fields : response.headers.fields = [("x-request-id", id)] ∨
    response.headers.fields = [("x-request-id", id), ("content-length", Bytes.ofText "0")]

/-- What leads nowhere is answered without content. -/
theorem isPlainNotFound_atOnce {request : Http.Request} (hSmall : isTooLarge request = false)
    (freshId : Bytes) :
    IsPlainNotFound (requestId request freshId) (atOnce none request freshId (.bare 404)) := by
  have hNamed : addRequestId (requestId request freshId) (.bare 404) =
      ⟨404, ⟨[("x-request-id", requestId request freshId)]⟩, ""⟩ := rfl
  unfold atOnce
  rw [hSmall, if_neg Bool.false_ne_true, hNamed]
  have hZero : Nat.repr 0 = "0" := rfl
  have hLengthened : addLength (addAllow none request
      ⟨404, ⟨[("x-request-id", requestId request freshId)]⟩, ""⟩) =
      ⟨404, ⟨[("x-request-id", requestId request freshId),
        ("content-length", Bytes.ofText "0")]⟩, ""⟩ := by
    simp [addAllow, addLength, addMissing, Http.Headers.contains, Http.Response.setHeader,
      Http.Headers.set, Http.Headers.erase, Http.Headers.add, hZero]
  rw [complete, if_neg (by simp), hLengthened]
  split
  · exact ⟨rfl, rfl, .inl rfl⟩
  · dsimp only
    split
    · exact ⟨rfl, rfl, .inr rfl⟩
    · exact ⟨rfl, rfl, .inr rfl⟩

/-- A request for a path that the service does not have is told just that, and one that asks whether
the service is up is answered: at once, and nobody is asked about either of them, whatever the
method, the headers and the credentials are. The stages do not see them: with any other stages in
place of those of the service they are answered in the same way. -/
theorem unrouted_untouched {request : Http.Request}
    (hPath : request.target.path ∉ ["/api/v1/tenant", "/api/v1/me"].map String.toList)
    (gate : Gate) (timeout : Duration) (freshId : Bytes) :
    ∃ response,
      (Server.mk (application gate) (some timeout)).AnswersAtOnce freshId request response ∧
      (∀ stages, (Server.mk (siteRouter stages gate).routes (some timeout)).AnswersAtOnce freshId
        request response) ∧
      (request.target.path ≠ "/health".toList → isTooLarge request = false →
        IsPlainNotFound (requestId request freshId) response) := by
  obtain ⟨route, inner, hDispatch, hNotFound⟩ := exists_dispatch_eq_done hPath gate
  have hAny (stages : Access → Handler → Responder) :
      (Server.mk (siteRouter stages gate).routes (some timeout)).AnswersAtOnce freshId request
        (atOnce route request freshId inner) := by
    obtain ⟨hFound, hDone⟩ := hDispatch stages
    rw [← hFound]
    exact Server.answersAtOnce_of_done rfl hDone freshId
  refine ⟨atOnce route request freshId inner, ?_, hAny, ?_⟩
  · rw [application_eq_routes]
    exact hAny _
  · intro hOther hSmall
    obtain ⟨rfl, rfl⟩ := hNotFound hOther
    exact isPlainNotFound_atOnce hSmall freshId

/-- Wants to delete what is just beside a path of the service, with a token. -/
def strayRequest : Http.Request :=
  { tenantRequest with
    method := "DELETE"
    target := ⟨none, "/api/v1/tenants".toList⟩
    headers := tenantRequest.headers.add "authorization" (Bytes.ofText "Bearer e30") }

/-- The sample path is not one of them. -/
theorem stray_request_not_found :
    ∃ response,
      (Server.mk (application sampleGate) (some (.ofSeconds 30))).AnswersAtOnce [] strayRequest
        response ∧
      response.status = 404 := by
  have hPath : strayRequest.target.path ∉ ["/api/v1/tenant", "/api/v1/me"].map String.toList := by
    decide
  obtain ⟨response, hAnswers, -, hNotFound⟩ :=
    unrouted_untouched hPath sampleGate (.ofSeconds 30) []
  exact ⟨response, hAnswers, (hNotFound (by decide) (by decide)).status⟩

end Gatehouse.Site
