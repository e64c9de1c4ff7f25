import Gatehouse.Proofs.Counting
import Gatehouse.Proofs.Outage
import Gatehouse.Proofs.Relaying

/-! Who is told of too many requests. A request is counted once at most, and where the handlers leave
it to the limiter, only a client that the store has refused is told so. What it is told is what the
limiter has made of the decision. -/
namespace Gatehouse

open RateLimit Surroundings

/-! ## Refusals of the limiter -/

/-- The answer is no response that tells of too many requests. -/
def Unlimited (answer : Answer) : Prop :=
  ∀ response, answer = .ok response → response.status ≠ 429

/-- The handler leaves it to the limiter to tell of too many requests. -/
def Handler.LeavesLimits (handler : Handler) : Prop :=
  ∀ request context, (handler request context).toProgram.Yields Unlimited

theorem unlimited_refuse (refusal : Refusal) : Unlimited (Answer.refuse refusal) := by
  rintro response ⟨⟩
  change refusal.status ≠ 429
  cases refusal <;> simp [Refusal.status]

/-- An answer within the patience is the answer of the store. -/
theorem Reply.eq_of_within {α : Type} {patience delay : Duration} {reply : Reply α} {value : α}
    (h : reply.within patience = .after delay (some value)) : reply = .after delay value := by
  cases reply with
  | never => cases h
  | after lag result =>
      unfold Reply.within at h
      dsimp only at h
      split at h
      · cases h
        rfl
      · cases h

namespace Pipeline

variable {σ τ : Type} {world : World σ} {counter : Counter τ} {deadline : Option Duration}
  {gate : Gate} {access : Access} {handler : Handler} {request : Http.Request}

/-- The store refuses the request, and the response tells of that. -/
def RefusedBy (counter : Counter τ) (gate : Gate) (request : Http.Request) (counts : τ)
    (response : Http.Response) : Prop :=
  ∃ delay decision,
    (counter (gate.limiter.key (String.ofList (RateLimit.client request.headers request.peer)))
      gate.limiter.config.limit counts).1 = .after delay (.ok decision) ∧
    decision.allowed = false ∧ deniedAnswer gate request decision = .ok response

variable (world counter deadline gate request) in
/-- The store counts the request once, and its reply decides what comes of that. -/
theorem run_quotaFor_counted (scene : Scene σ) (counts : τ) :
    let outcome := (quotaFor gate request).run (countedBy counter world) deadline
      (scene.beside counts)
    countsOf outcome.trace = [counting gate request] ∧
    ∀ quota, outcome.ending = .finished quota → ∃ reply : CountReply,
      quota = limitedBy gate request (admissionOf gate.limiter reply) ∧
      ∀ decision, reply = some (.ok decision) → ∃ delay,
        (counter (gate.limiter.key (String.ofList (RateLimit.client request.headers request.peer)))
          gate.limiter.config.limit counts).1 = .after delay (.ok decision) := by
  obtain ⟨next, hQuota⟩ : ∃ next, quotaFor gate request = .ask (counting gate request) [] next :=
    ⟨_, rfl⟩
  have hRun := run_quotaFor_eq (countedBy counter world) deadline gate request
    (scene.beside counts)
  dsimp only at hRun ⊢
  rcases hRun with ⟨holds, hEnding, hTrace⟩ | ⟨reply, events, hEnding, hTrace⟩
  · rw [hEnding, hTrace]
    exact ⟨rfl, nofun⟩
  · refine ⟨?_, fun quota hFinished => ⟨reply, ?_, ?_⟩⟩
    · rw [hTrace]
      exact congrArg (counting gate request :: ·) (countsOf_of_uncounted (uncounted_events events))
    · rw [hEnding] at hFinished
      cases hFinished
      rfl
    · rintro decision rfl
      rw [hQuota, Program.run_ask] at hTrace
      cases hAsk : (scene.beside counts).ask (countedBy counter world) deadline
          (counting gate request) with
      | error after =>
          rw [hAsk] at hTrace
          cases hTrace
      | ok result =>
          obtain ⟨answer, after⟩ := result
          obtain ⟨delay, hWorld⟩ := Scene.world_of_ask_ok hAsk
          rw [hAsk] at hTrace
          obtain ⟨hEntry, -⟩ := List.cons.inj hTrace
          cases hEntry
          exact ⟨delay, Reply.eq_of_within (congrArg Prod.fst hWorld)⟩

/-- Behind the count nobody is told to wait, unless a handler does so. -/
theorem Behind.unlimited {trace : List Entry} {answer : Answer} (hHandler : handler.LeavesLimits)
    (h : Behind world deadline gate handler request trace answer) : Unlimited answer := by
  cases h with
  | refused refusal => exact unlimited_refuse refusal
  | brokenOff => nofun
  | handled answer hHandled =>
      obtain ⟨tenant, claims, entry, hEnding, -⟩ := hHandled
      exact (hHandler request _).run hEnding

/-- What the limiter lets pass is told with its own status. -/
theorem relays_of_limitedBy {admission : Admission} {tell : Answer → Answer}
    (h : limitedBy gate request admission = .ok tell) : Relays tell := by
  cases admission with
  | failedOpen =>
      cases h
      exact fun answer response hResponse => ⟨response, hResponse, rfl, rfl⟩
  | failedClosed => cases h
  | decided decision =>
      unfold limitedBy at h
      dsimp only at h
      split at h
      · cases h
        exact relays_addQuota _ decision
      · cases h

/-- Relaying an answer does not make a refusal by the limit of it. -/
theorem Relays.unlimited {tell : Answer → Answer} (h : Relays tell) {answer : Answer}
    (hAnswer : Unlimited answer) : Unlimited (tell answer) := by
  intro response hResponse
  obtain ⟨inner, hInner, hStatus, -⟩ := h answer response hResponse
  exact hStatus ▸ hAnswer inner hInner

/-- What the limiter answers itself: that the store has failed, or that it has refused the request. -/
theorem refused_of_limitedBy {reply : CountReply} {answer : Answer} (hUnlimited : ¬ Unlimited answer)
    (h : limitedBy gate request (admissionOf gate.limiter reply) = .error answer) :
    ∃ decision, reply = some (.ok decision) ∧ decision.allowed = false ∧
      deniedAnswer gate request decision = answer := by
  rcases admissionOf_cases gate.limiter reply with ⟨decision, rfl⟩ | ⟨hReply, -⟩
  · refine ⟨decision, rfl, ?_⟩
    unfold admissionOf limitedBy at h
    dsimp only at h
    split at h
    · cases h
    · next hDenied =>
      cases h
      exact ⟨Bool.eq_false_iff.mpr hDenied, rfl⟩
  · rw [(answer_of_limitedBy h).1 hReply] at hUnlimited
    exact (hUnlimited (unlimited_refuse _)).elim

variable (world counter deadline gate access request) in
/-- A request of a known tenant is counted once. If it is told of too many requests, the store has
refused it. -/
theorem run_known_counted (hHandler : handler.LeavesLimits) (tenant : Tenant) (scene : Scene σ)
    (counts : τ) :
    let outcome := ((quotaFor gate request).bind fun
      | .error answer => .done answer
      | .ok tell => (serveCounted gate access handler request tenant).bind fun answer =>
        .done (tell answer)).run (countedBy counter world) deadline (scene.beside counts)
    countsOf outcome.trace = [counting gate request] ∧
    ∀ response, outcome.ending = .finished (.ok response) → response.status = 429 →
      RefusedBy counter gate request counts response := by
  obtain ⟨hCounts, hReply⟩ := run_quotaFor_counted world counter deadline gate request scene counts
  dsimp only at hCounts hReply ⊢
  rw [Program.run_bind]
  generalize (quotaFor gate request).run (countedBy counter world) deadline (scene.beside counts) =
    quota at hCounts hReply ⊢
  cases hQuota : quota.ending with
  | dropped holds =>
      rw [Outcome.andThen_of_dropped hQuota]
      exact ⟨hCounts, nofun⟩
  | finished limited =>
      obtain ⟨reply, hLimited, hDecided⟩ := hReply limited hQuota
      rw [Outcome.andThen_of_finished hQuota]
      cases limited with
      | error answer =>
          refine ⟨by simpa [Program.run] using hCounts, fun response hEnding hStatus => ?_⟩
          obtain ⟨decision, hSome, hDenied, hAnswer⟩ := refused_of_limitedBy
            (fun hUnlimited => hUnlimited response (Ending.finished.inj hEnding) hStatus)
            hLimited.symm
          obtain ⟨delay, hCounter⟩ := hDecided decision hSome
          exact ⟨delay, decision, hCounter, hDenied,
            hAnswer.trans (Ending.finished.inj hEnding)⟩
      | ok tell =>
          obtain ⟨hUncounted, hBehind⟩ := run_serveCounted (countedBy counter world) deadline gate
            access handler request quota.scene tenant
          dsimp only
          rw [Program.run_map]
          refine ⟨?_, fun response hEnding hStatus => ?_⟩
          · rw [Outcome.behind_trace, countsOf_append, hCounts, countsOf_of_uncounted hUncounted]
            rfl
          · obtain ⟨answer, hAnswer, hTold⟩ := Ending.finished_of_map hEnding
            have hUnlimited := (relays_of_limitedBy hLimited.symm).unlimited
              ((hBehind answer hAnswer).unlimited hHandler)
            exact (hUnlimited response hTold hStatus).elim

/-- A request is counted once at most. If it is told of too many requests, the store has counted and
refused it. -/
theorem run_apply_counted (hHandler : handler.LeavesLimits) (scene : Scene σ) (counts : τ) :
    let outcome := (apply gate access handler request).run (countedBy counter world) deadline
      (scene.beside counts)
    (countsOf outcome.trace = [] ∨ countsOf outcome.trace = [counting gate request]) ∧
    ∀ response, outcome.ending = .finished (.ok response) → response.status = 429 →
      countsOf outcome.trace = [counting gate request] ∧
        RefusedBy counter gate request counts response := by
  have hBefore : countsOf ((tenantFor gate request).run world deadline scene).trace = [] :=
    countsOf_of_uncounted uncounted_tenantFor
  rw [apply_eq_serveCounted]
  dsimp only
  rw [Program.run_bind, Program.run_countedBy uncounted_tenantFor]
  generalize hFound : (tenantFor gate request).run world deadline scene = found at hBefore ⊢
  obtain ⟨ending, after, trace⟩ := found
  cases ending with
  | dropped holds => exact ⟨.inl hBefore, nofun⟩
  | finished found =>
      have hRefused := (yields_refusal_tenantFor gate request).run (congrArg Outcome.ending hFound)
      rw [Outcome.andThen_of_finished rfl]
      cases found with
      | error answer =>
          obtain rfl := hRefused answer rfl
          refine ⟨.inl (by simpa [Outcome.beside, Program.run] using hBefore), ?_⟩
          intro response hEnding hStatus
          exact (unlimited_refuse _ response (Ending.finished.inj hEnding) hStatus).elim
      | ok tenant =>
          obtain ⟨hCounts, hRefuses⟩ := run_known_counted world counter deadline gate access request
            hHandler tenant after counts
          have hAll := congrArg₂ (· ++ ·) hBefore hCounts
          rw [Outcome.behind_trace, countsOf_append]
          exact ⟨.inr hAll, fun response hEnding hStatus => ⟨hAll, hRefuses response hEnding hStatus⟩⟩

end Pipeline

/-! ## Servers -/

namespace Site

variable {σ τ : Type} {world : World σ} {counter : Counter τ} {deadline : Option Duration}
  {gate : Gate} {services : List Service} {timeout : Duration} {request : Http.Request}

variable (world counter deadline gate timeout request) in
/-- A request is counted once at most, and one that is told to wait was refused by its count. -/
theorem run_dispatch_counted (hHandlers : ∀ service ∈ services, service.handler.LeavesLimits)
    (scene : Scene σ) (counts : τ) :
    let outcome := (dispatch (serving (Pipeline.apply gate) services timeout).routes request).run
      (countedBy counter world) deadline (scene.beside counts)
    (countsOf outcome.trace = [] ∨ countsOf outcome.trace = [Pipeline.counting gate request]) ∧
    ∀ response, outcome.ending = .finished (.ok response) → response.status = 429 →
      countsOf outcome.trace = [Pipeline.counting gate request] ∧
        Pipeline.RefusedBy counter gate request counts response := by
  unfold dispatch
  rw [find?_serving]
  cases hFound : services.find? fun service => service.path.toList == request.target.path with
  | none =>
      refine ⟨.inl rfl, ?_⟩
      rintro response ⟨⟩ hStatus
      cases hStatus
  | some service =>
      have hHandler := hHandlers service (List.mem_of_find?_eq_some hFound)
      dsimp only [Option.map_some, Service.route]
      cases service.access with
      | some access => exact Pipeline.run_apply_counted hHandler scene counts
      | none =>
          have hUncounted := (countsNobody_toProgram (service.handler request .fresh)).uncounted
            (countedBy counter world) deadline (scene.beside counts)
          refine ⟨.inl (countsOf_of_uncounted hUncounted), fun response hEnding hStatus => ?_⟩
          exact ((hHandler request .fresh).run hEnding response rfl hStatus).elim

namespace Server

variable {server : Server} {patience : Patience} {freshId : Bytes}

variable (world counter deadline patience) in
/-- An attempt counts as its program does, also where it runs out of time. -/
theorem attempt_tally {α : Type} (p : Program α) (scene : Scene (σ × τ)) :
    let attempted := attempt (countedBy counter world) deadline patience p scene
    attempted.2.1.world.2 = tally counter (countsOf attempted.2.2) scene.world.2 := by
  cases patience with
  | stays => exact Program.runAndClear_tally true p scene
  | leaves runtime => exact Program.runAndClear_tally runtime p scene

variable (world counter request server patience freshId) in
/-- The counts change by what is counted for the request. -/
theorem receive_tally (hTimeout : server.timeout = some timeout) (scene : Scene (σ × τ)) :
    let received := server.receive (countedBy counter world) patience freshId request scene
    received.2.1.world.2 = tally counter (countsOf received.2.2) scene.world.2 := by
  unfold receive
  rw [hTimeout]
  dsimp only
  unfold receiveWithin
  dsimp only
  split
  · rfl
  · have hTally := attempt_tally world counter (some timeout) (server.patience patience)
      (catchPanic (dispatch server.routes request)) scene
    dsimp only at hTally
    split
    · next hAttempt =>
      rw [hAttempt] at hTally
      exact hTally
    · next hAttempt =>
      rw [hAttempt] at hTally
      exact hTally

variable (world request server patience freshId) in
/-- Only the routes have anything counted. -/
theorem countsOf_receive (hTimeout : server.timeout = some timeout) (scene : Scene σ) :
    let counts := countsOf (server.receive world patience freshId request scene).2.2
    counts = [] ∨ counts = countsOf
      ((dispatch server.routes request).run world (server.limit patience) scene).trace := by
  unfold receive limit
  rw [hTimeout]
  dsimp only
  generalize server.patience patience = patience
  unfold receiveWithin
  dsimp only
  split
  · exact .inl rfl
  · refine .inr ?_
    cases hEnding : ((dispatch server.routes request).run world (patience.limit (some timeout))
        scene).ending with
    | finished answer =>
        have hRun := run_catchPanic hEnding
        rw [attempt_of_finished (congrArg Outcome.ending hRun), hRun]
        dsimp only
        rw [countsOf_append, countsOf_of_uncounted (Pipeline.uncounted_events _), List.append_nil]
    | dropped holds =>
        have hRun : (catchPanic (dispatch server.routes request)).run world
            (patience.limit (some timeout)) scene = ⟨.dropped holds, _, _⟩ :=
          Program.run_bind_of_dropped hEnding _
        obtain ⟨runtime, _, rfl, hAttempt⟩ := attempt_of_dropped (congrArg Outcome.ending hRun)
        have hCleared := (Hold.countsNobody_clearAll runtime holds).uncounted world none
          ((dispatch server.routes request).run world (patience.limit (some timeout)) scene).scene
        rw [hAttempt, hRun]
        dsimp only
        rw [countsOf_append, countsOf_of_uncounted hCleared, List.append_nil]

end Server

variable (world counter) in
/-- A response that tells of too many requests has been made of a refusal. -/
theorem refused_of_receive (scene : Scene σ) (counts : τ)
    (hHandlers : ∀ service ∈ services, service.handler.LeavesLimits)
    {patience : Patience} {freshId : Bytes} {response : Http.Response}
    (hResponse : ((serving (Pipeline.apply gate) services timeout).receive
      (countedBy counter world) patience freshId request (scene.beside counts)).1 =
        .response response)
    (hStatus : response.status = 429) :
    countsOf ((serving (Pipeline.apply gate) services timeout).receive (countedBy counter world)
      patience freshId request (scene.beside counts)).2.2 = [Pipeline.counting gate request] ∧
    ∃ inner, Pipeline.RefusedBy counter gate request counts inner ∧
      response.headers.values "retry-after" = inner.headers.values "retry-after" := by
  have hAnswering := Server.answering_of_receive rfl hResponse
  obtain ⟨-, hRefused⟩ := run_dispatch_counted world counter
    ((serving (Pipeline.apply gate) services timeout).limit patience) gate timeout request hHandlers
    scene counts
  generalize ((serving (Pipeline.apply gate) services timeout).receive (countedBy counter world)
    patience freshId request (scene.beside counts)).2.2 = trace at hAnswering ⊢
  generalize (dispatch (serving (Pipeline.apply gate) services timeout).routes request).run _ _ _ =
    routed at hAnswering hRefused
  cases hAnswering with
  | tooLarge => simp [tooLarge, Http.Response.text] at hStatus
  | timedOut => simp [Http.Response.bare] at hStatus
  | answered answer hEnding =>
      cases answer with
      | error panic =>
          simp [recovered, Refusal.response, Refusal.status, Http.Response.json] at hStatus
      | ok inner =>
          have hInner : inner.status = 429 := by simpa [recovered] using hStatus
          obtain ⟨hCounts, hRefusal⟩ := hRefused inner hEnding hInner
          refine ⟨?_, inner, hRefusal, ?_⟩
          · rw [countsOf_append, hCounts]
            rfl
          · rw [complete_values _ _ _ (by decide) (by decide), addRequestId_values _ _ (by decide)]
            rfl

/-! ## The application -/

theorem unlimited_of_status {response : Http.Response} (h : response.status ≠ 429) :
    Unlimited (.ok response) := by
  rintro other ⟨⟩
  exact h

/-- A handler leaves limits to the limiter also where it only reads. -/
theorem leavesLimits_readOnly {handler : Handler} (h : handler.LeavesLimits) :
    (readOnly handler).LeavesLimits := by
  intro request context
  unfold readOnly
  split
  · exact h request context
  · exact unlimited_of_status (by decide)

theorem leavesLimits_health : health.LeavesLimits :=
  fun _ _ => unlimited_of_status (by simp [Http.Response.json])

theorem leavesLimits_me : me.LeavesLimits := by
  rintro request ⟨tenant, claims, transaction⟩
  cases tenant with
  | none => exact unlimited_refuse _
  | some tenant =>
      cases claims with
      | none => exact unlimited_refuse _
      | some claims => exact unlimited_of_status (by simp [Http.Response.json])

/-- The handler that looks at the database answers with no limit of its own. -/
theorem leavesLimits_currentTenant (gate : Gate) : (currentTenant gate).LeavesLimits := by
  rintro request ⟨tenant, claims, transaction⟩
  cases tenant with
  | none => exact unlimited_refuse _
  | some tenant =>
      cases transaction with
      | none => exact unlimited_refuse _
      | some bound =>
          simp only [currentTenant, Context.requireTenant, Context.requireTransaction,
            Handling.setting, bind, Handling.bind, Handling.toProgram]
          refine (Program.yields_true _).bind fun locked _ => ?_
          cases locked with
          | error error => exact unlimited_refuse _
          | ok value =>
              intro answer
              cases answer with
              | ok value => exact unlimited_of_status (by simp [Http.Response.json])
              | error detail => exact unlimited_refuse _

/-- The application leaves it to the limiter to tell of too many requests. -/
theorem leavesLimits_services (gate : Gate) :
    ∀ service ∈ Site.services gate, service.handler.LeavesLimits := by
  intro service hService
  simp only [Site.services, List.mem_cons, List.not_mem_nil, or_false] at hService
  rcases hService with rfl | rfl | rfl
  · exact leavesLimits_readOnly leavesLimits_health
  · exact leavesLimits_readOnly (leavesLimits_currentTenant gate)
  · exact leavesLimits_readOnly leavesLimits_me

end Site

end Gatehouse
