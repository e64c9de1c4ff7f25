import Gatehouse.Proofs.Boundary
import Gatehouse.Proofs.Connections
import Gatehouse.Proofs.Finalization
import Gatehouse.Proofs.Relaying
import Gatehouse.Proofs.RoundTrip
import Gatehouse.Surroundings.Memory

/-! Requests in turn on one pool. The transaction of a request begins with no value of an earlier
one, and the tenant that it is told its session is bound to is that of its own host. -/
namespace Gatehouse.Surroundings

open Pipeline Site

variable {σ : Type} {others : Others σ} {deadline : Option Duration} {gate : Gate}
    {access : Access} {request : Http.Request} {scene : Scene (σ × Pool)}

/-! ## Bound transactions -/

/-- A transaction that could be opened has the tenant bound in it. -/
theorem binds_of_opening {setting tenant : String}
    (h : ((opening setting tenant).run (pooled others) deadline scene).ending =
      .finished (.ok ())) :
    ((opening setting tenant).run (pooled others) deadline scene).scene.world.2.Binds
      setting tenant := by
  rw [opening, Program.run_ask] at h ⊢
  cases hBegin : scene.ask (pooled others) deadline .begin with
  | error after =>
      rw [hBegin] at h
      cases h
  | ok result =>
      obtain ⟨reply, began⟩ := result
      rw [hBegin] at h
      cases reply with
      | error error => cases h
      | ok value =>
          dsimp only at h ⊢
          rw [Outcome.behind_ending, Program.run_ask] at h
          rw [Outcome.behind_scene, Program.run_ask]
          cases hBind : began.ask (pooled others) deadline (.bind setting tenant) with
          | error after =>
              rw [hBind] at h
              cases h
          | ok result =>
              obtain ⟨reply, bound⟩ := result
              rw [hBind] at h
              cases reply with
              | error error =>
                  obtain ⟨done, -, h⟩ := Program.finished_of_run_bind h
                  cases h
              | ok value =>
                  obtain ⟨connection, resettle, asked, pool, doings, hAnswer, hPool⟩ :=
                    ask_pooled hBind
                  change bound.world.2.Binds setting tenant
                  rw [hPool]
                  exact (Pool.binds_of_bind hAnswer).meanwhile doings

/-- Once a request is admitted, the transaction in hand is bound to its tenant. -/
theorem binds_of_approach {admitted : Admitted}
    (h : ((approach gate access request).run (pooled others) deadline scene).ending =
      .finished (.ok admitted)) :
    ((approach gate access request).run (pooled others) deadline scene).scene.world.2.Binds
      gate.tenantSetting admitted.tenant.id := by
  obtain ⟨result, hAdmit, hRest⟩ := Program.finished_of_run_bind h
  rw [approach, Program.run_bind_of_finished hAdmit]
  cases result with
  | error answer => cases hRest
  | ok known =>
      obtain ⟨opened, hOpening, hLast⟩ := Program.finished_of_run_bind hRest
      dsimp only
      rw [Program.run_bind_of_finished hOpening]
      cases opened with
      | error answer => cases hLast
      | ok value =>
          cases hLast
          exact binds_of_opening hOpening

/-! ## The operation that tells the tenant -/

theorem dispatch_tenant (others : List Route)
    (hPath : request.target.path = "/api/v1/tenant".toList) :
    dispatch (application gate ++ others) request =
      Pipeline.apply gate .everyone (readOnly (currentTenant gate)) request := by
  have hHealth : ("/health".toList == "/api/v1/tenant".toList) = false := by decide
  simp only [dispatch, find?, hPath, application, List.cons_append, List.find?_cons, hHealth,
    beq_self_eq_true]

/-- The response that tells a tenant, and the tenant that the session is bound to. -/
def tenantResponse (tenant : Tenant) (bound : Option String) : Http.Response :=
  .json 200 (tenantBody tenant (nonEmpty bound))

/-- The handler tells the tenant of its context beside what the session reads. -/
theorem readOnly_currentTenant (hMethod : request.method = "GET") (tenant : Tenant)
    (claims : Option Token.Claims) (transaction : String) :
    readOnly (currentTenant gate) request ⟨some tenant, claims, some transaction⟩ =
      .readSetting gate.tenantSetting fun
        | .ok value => .done (.ok (tenantResponse tenant value))
        | .error (.transaction error) =>
          .log (Refusal.transactionEvent error) (.done (Answer.refuse .internal))
        | .error (.query detail) =>
          .log (Refusal.queryEvent detail) (.done (Answer.refuse .internal)) := by
  rw [readOnly, if_pos (by simp [isReading, hMethod])]
  rfl

/-- Locking an open transaction leaves what is bound as it is. -/
theorem binds_of_lockTransaction {setting value : String}
    (hBinds : scene.world.2.Binds setting value) (hOpen : scene.handle.slot.isOpen = true)
    {locked : Except Database.Error Unit}
    (h : (Program.lockTransaction.run (pooled others) deadline scene).ending = .finished locked) :
    locked = .ok () ∧
      (Program.lockTransaction.run (pooled others) deadline scene).scene.world.2.Binds
        setting value := by
  rw [Program.run_lockTransaction] at h ⊢
  cases hFree : scene.ask (pooled others) deadline .untilFree with
  | error after =>
      rw [hFree] at h
      cases h
  | ok result =>
      obtain ⟨reply, free⟩ := result
      rw [hFree] at h
      have hSlot : free.handle.slot.isOpen = true := Scene.handle_of_ask_ok hFree ▸ hOpen
      have hLocked : (if free.handle.slot.isOpen then .ok () else .error .finalized) = locked :=
        Ending.finished.inj h
      rw [if_pos hSlot] at hLocked
      obtain ⟨connection, resettle, asked, pool, doings, hAnswer, hPool⟩ := ask_pooled hFree
      obtain rfl : scene.world.2 = pool := congrArg Prod.snd hAnswer
      refine ⟨hLocked.symm, ?_⟩
      dsimp only
      rw [hPool]
      exact hBinds.meanwhile doings

/-- The session that the operation reads is the one in hand. -/
theorem handling_currentTenant (hMethod : request.method = "GET") {tenant : Tenant}
    {claims : Option Token.Claims} {response : Http.Response}
    (hBinds : scene.world.2.Binds gate.tenantSetting tenant.id)
    (h : (handling (pooled others) deadline (readOnly (currentTenant gate)) request
      ⟨some tenant, claims, some tenant.id⟩ scene).ending = .finished (.ok response))
    (hGood : response.status = 200) : response = tenantResponse tenant (some tenant.id) := by
  unfold handling at h
  rw [readOnly_currentTenant hMethod, Handling.toProgram] at h
  obtain ⟨locked, hLock, h⟩ := Program.finished_of_run_bind h
  have hEntry : ({ scene with handle := ⟨.hold (), false⟩ } : Scene (σ × Pool)).world.2.Binds
      gate.tenantSetting tenant.id := hBinds
  obtain ⟨rfl, hLocked⟩ := binds_of_lockTransaction hEntry rfl hLock
  dsimp only at h
  rw [Program.run_ask] at h
  split at h
  · next read after hRead =>
    obtain ⟨connection, resettle, asked, pool, doings, hAnswer, -⟩ := ask_pooled hRead
    cases read with
    | ok value =>
        obtain rfl : value = some tenant.id := hLocked.readSetting hAnswer
        cases h
        rfl
    | error detail =>
        cases h
        exact absurd hGood (by decide)
  · cases h

/-- The response tells its client the tenant, and that its session is bound to that tenant. Where
the id of the tenant is empty, there is nothing to be bound to. -/
def TellsTenant (response : Http.Response) (tenant : Tenant) : Prop :=
  Json.parse? (Bytes.ofText response.body) = some (.object
    [(some "tenant_id", .string (some tenant.id)), (some "domain_name", .string (some tenant.domain)),
     (some "session_tenant_id", if tenant.id = "" then .null else .string (some tenant.id))])

theorem nonEmpty_some (text : String) :
    nonEmpty (some text) = if text = "" then none else some text := by
  simp [nonEmpty, Option.filter_some, ite_not]

/-- The body states the id and the domain, and the setting unless that is empty. -/
theorem tellsTenant_of_body {response : Http.Response} {tenant : Tenant}
    (h : response.body = (tenantResponse tenant (some tenant.id)).body) :
    TellsTenant response tenant := by
  have hBound : (textOrNull (nonEmpty (some tenant.id))).map some =
      if tenant.id = "" then .null else .string (some tenant.id) := by
    rw [nonEmpty_some]
    split <;> rfl
  unfold TellsTenant
  rw [h, ← hBound]
  exact Json.parse?_render _

/-- The tenant is the dispatcher's answer for the label of a host. -/
def IsResolved (world : World (σ × Pool)) (deadline : Option Duration) (gate : Gate)
    (request : Http.Request) (before : σ × Pool) (tenant : Tenant) : Prop :=
  ∃ label, Tenant.requestLabel? request.headers request.target = some label ∧
    tenant.domain = String.ofList label ∧
    ((gate.tenants.find tenant.domain).run world deadline (.fresh before)).ending =
      .finished (.ok tenant.id)

/-- A request that is told of its tenant is told that of its own host, and that its session is
bound to it. -/
theorem tellsTenant_of_receive {routes : List Route} {timeout : Option Duration}
    {patience : Patience} {freshId : Bytes} {before : σ × Pool} {response : Http.Response}
    (hMethod : request.method = "GET") (hPath : request.target.path = "/api/v1/tenant".toList)
    (h : ((Server.mk (application gate ++ routes) timeout).receive (pooled others) patience freshId
      request (.fresh before)).1 = .response response) (hStatus : response.status = 200) :
    ∃ tenant, IsResolved (pooled others)
        ((Server.mk (application gate ++ routes) timeout).limit patience) gate request before
        tenant ∧
      TellsTenant response tenant := by
  obtain ⟨told, hTold, hToldStatus, hToldBody⟩ :=
    Server.exists_finished_of_receive hMethod h hStatus
  rw [dispatch_tenant routes hPath] at hTold
  obtain ⟨admitted, inner, hAdmitted, hHandled, hInnerStatus, hInnerBody⟩ :=
    handled_of_apply hTold (by omega)
  obtain ⟨hAdmits, -⟩ := approach_admitted hAdmitted
  have hInner := handling_currentTenant hMethod (binds_of_approach hAdmitted) hHandled (by omega)
  refine ⟨admitted.tenant, hAdmits.tenant, tellsTenant_of_body ?_⟩
  rw [← hToldBody, ← hInnerBody, hInner]

/-! ## Histories -/

theorem isClean_serve (server : Server) (others : Others σ) (arrival : Arrival)
    (state : σ × Pool) (h : state.2.IsClean) :
    (serve server others arrival state).2.2.IsClean := by
  have hReceived := Server.receive_keeps (isClean_pooled others) server arrival.patience
    arrival.freshId arrival.request (.fresh state) h
  exact hReceived.release

/-- By induction over the arrivals the pool stays clean. -/
theorem isClean_serveAll (server : Server) (others : Others σ) (arrivals : List Arrival)
    (state : σ × Pool) (h : state.2.IsClean) :
    (serveAll server others arrivals state).2.2.IsClean := by
  induction arrivals generalizing state with
  | nil => exact h
  | cons arrival rest ih => exact ih _ (isClean_serve server others arrival state h)

/-- Each exchange was served from the state before it. -/
theorem reception_of_mem {server : Server} {arrivals : List Arrival} {state : σ × Pool}
    {exchange : Exchange σ} (h : exchange ∈ (serveAll server others arrivals state).1) :
    exchange.reception = (serve server others exchange.arrival exchange.before).1 := by
  induction arrivals generalizing state with
  | nil => cases h
  | cons arrival rest ih =>
      obtain rfl | hLater := List.mem_cons.mp h
      · rfl
      · exact ih hLater

/-- Everyone is served once, in the order of arrival. -/
theorem arrivals_serveAll (server : Server) (arrivals : List Arrival) (state : σ × Pool) :
    (serveAll server others arrivals state).1.map Exchange.arrival = arrivals := by
  induction arrivals generalizing state with
  | nil => rfl
  | cons arrival rest ih => exact congrArg _ (ih _)

/-- Whatever requests a service has been through, on whatever connections of the pool, however they
ended and whatever failed, a client that is told of its tenant is told that of its own host, and
that its session is bound to that tenant. No transaction has begun with a value that was set in an
earlier one. -/
theorem session_tenant_of_own_host (others : Others σ) (gate : Gate) (routes : List Route)
    (timeout : Option Duration) (state : σ) (arrivals : List Arrival) :
    let server : Server := ⟨application gate ++ routes, timeout⟩
    let history := serveAll server others arrivals (state, .fresh)
    history.1.map Exchange.arrival = arrivals ∧
      (∀ exchange ∈ history.1, ∀ response, exchange.arrival.request.method = "GET" →
        exchange.arrival.request.target.path = "/api/v1/tenant".toList →
        exchange.reception = .response response → response.status = 200 →
        ∃ tenant, IsResolved (pooled others) (server.limit exchange.arrival.patience) gate
            exchange.arrival.request exchange.before tenant ∧
          TellsTenant response tenant) ∧
      ∀ session ∈ history.2.2.begun, ∀ name value,
        session.setting? name = some value → value = "" := by
  intro server history
  refine ⟨arrivals_serveAll .., ?_, ?_⟩
  · intro exchange hExchange response hMethod hPath hReception hStatus
    rw [reception_of_mem hExchange] at hReception
    exact tellsTenant_of_receive hMethod hPath hReception hStatus
  · intro session hSession name value hSetting
    have hClean := isClean_serveAll server others arrivals (state, .fresh) Pool.isClean_fresh
    obtain ⟨hSettings, hLasting⟩ := hClean.begun session hSession
    exact Database.Session.eq_empty_of_setting? hSettings hLasting hSetting

/-! ## A connection that is left with a binding -/

/-- Everything but the pool is kept in memory, and one connection serves all transactions. -/
def onMemory : Others Memory :=
  ⟨Memory.world, fun _ => 0, fun _ settings => settings, fun _ => []⟩

def twoTenants : Memory :=
  ⟨[("acme", "t1"), ("globex", "t2")], [], .now (.error .timeout), [], [], .empty⟩

/-- The service with one more path, at which a request takes a second. -/
def slowServer : Server :=
  ⟨application sampleGate ++ [⟨"/slow", false, Pipeline.apply sampleGate .everyone fun _ _ =>
    .pause (.ofSeconds 1) (.done (.ok (.bare 204)))⟩], some (.ofSeconds 30)⟩

def requestTo (method path host : String) : Http.Request :=
  ⟨method, ⟨none, path.toList⟩, ⟨[("host", Bytes.ofText host)]⟩, none, 0⟩

/-- A client of one tenant leaves while its request takes its time, and nothing is at hand to roll
back with. Then one of another tenant asks for its tenant. -/
def leavingThenAsking : List Arrival :=
  [⟨.leaves false, [], requestTo "POST" "/slow" "acme.app"⟩,
   ⟨.stays, [], requestTo "GET" "/api/v1/tenant" "globex.app"⟩]

/-- The status that a client is told, if it is told one. -/
def statusTold? : Reception → Option Nat
  | .response response => some response.status
  | _ => none

/-- The tenant that the directory has for the second host, in the state in which a request came in. -/
def globexFound? (exchange : Exchange Memory) : Option String :=
  match ((sampleGate.tenants.find "globex").run (pooled onMemory) (some (.ofSeconds 30))
    (.fresh exchange.before)).ending with
  | .finished (.ok id) => some id
  | _ => none

/-- The client of the second tenant is told of that tenant, in its session as well, although the
transaction before was left with a binding to the first. -/
theorem asked_after_leaving :
    let history := serveAll slowServer onMemory leavingThenAsking (twoTenants, .fresh)
    history.1.map (fun exchange => statusTold? exchange.reception) = [none, some 200] ∧
      (∃ exchange ∈ history.1, ∃ response, exchange.reception = .response response ∧
        IsResolved (pooled onMemory) (some (.ofSeconds 30)) sampleGate exchange.arrival.request
          exchange.before ⟨"t2", "globex"⟩ ∧
        Json.parse? (Bytes.ofText response.body) = some (.object
          [(some "tenant_id", .string (some "t2")), (some "domain_name", .string (some "globex")),
           (some "session_tenant_id", .string (some "t2"))])) ∧
      history.2.2.begun.map (fun session => session.setting? "app.tenant") = [some "", none] ∧
      ∀ session ∈ history.2.2.begun, ∀ name value,
        session.setting? name = some value → value = "" := by
  intro history
  have hStatuses : history.1.map (fun exchange => statusTold? exchange.reception) =
      [none, some 200] := by decide +kernel
  have hFound : history.1.map globexFound? = [some "t2", some "t2"] := by decide +kernel
  obtain ⟨hArrivals, hTold, hBegun⟩ := session_tenant_of_own_host onMemory sampleGate _
    (some (.ofSeconds 30)) twoTenants leavingThenAsking
  refine ⟨hStatuses, ?_, by decide +kernel, hBegun⟩
  obtain ⟨left, rest, hHistory, -, hRest⟩ := List.map_eq_cons_iff.mp hStatuses
  obtain ⟨asked, last, rfl, hAsked, hLast⟩ := List.map_eq_cons_iff.mp hRest
  obtain rfl := List.map_eq_nil_iff.mp hLast
  have hMem : asked ∈ history.1 := by simp [hHistory]
  have hArrival : asked.arrival = ⟨.stays, [], requestTo "GET" "/api/v1/tenant" "globex.app"⟩ := by
    change history.1.map Exchange.arrival = leavingThenAsking at hArrivals
    rw [hHistory] at hArrivals
    exact (List.cons.inj (List.cons.inj hArrivals).2).1
  have hGlobex : globexFound? asked = some "t2" := by
    rw [hHistory] at hFound
    exact (List.cons.inj (List.cons.inj hFound).2).1
  cases hReception : asked.reception with
  | response response =>
      rw [hReception] at hAsked
      obtain ⟨⟨id, domain⟩, hTenant, hTells⟩ := hTold asked hMem response (by rw [hArrival]; rfl)
        (by rw [hArrival]; rfl) hReception (Option.some.inj hAsked)
      have hResolved : IsResolved (pooled onMemory) (some (.ofSeconds 30)) sampleGate
          asked.arrival.request asked.before ⟨id, domain⟩ := by
        rw [hArrival] at hTenant ⊢
        exact hTenant
      obtain ⟨label, hLabel, hDomain, hEnds⟩ := hResolved
      have hGlobexLabel : Tenant.requestLabel? asked.arrival.request.headers
          asked.arrival.request.target = some "globex".toList := by
        rw [hArrival]
        rfl
      cases hGlobexLabel.symm.trans hLabel
      obtain rfl : domain = "globex" := hDomain
      obtain rfl : id = "t2" := by
        rw [globexFound?, hEnds] at hGlobex
        exact Option.some.inj hGlobex
      exact ⟨asked, hMem, response, hReception, ⟨_, hLabel, rfl, hEnds⟩, hTells⟩
  | panicked panic => simp [hReception, statusTold?] at hAsked
  | abandoned => simp [hReception, statusTold?] at hAsked

end Gatehouse.Surroundings
