import Gatehouse.Proofs.Execution
import Gatehouse.Site.Boundary

/-! What the boundary around the routes does to an answer. A request that the routes answer in
time is answered with that, and a panic of theirs with an internal error; the status and, where one
is asked for, the body stay what they are. Only the routes tell of success. -/
namespace Gatehouse.Site

variable {σ : Type} {world : World σ} {deadline : Option Duration}

/-! ## Responses -/

@[simp] theorem addRequestId_status (id : Bytes) (response : Http.Response) :
    (addRequestId id response).status = response.status := by
  unfold addRequestId
  split <;> rfl

@[simp] theorem addRequestId_body (id : Bytes) (response : Http.Response) :
    (addRequestId id response).body = response.body := by
  unfold addRequestId
  split <;> rfl

@[simp] theorem addMissing_status (name value : String) (response : Http.Response) :
    (addMissing name value response).status = response.status := by
  unfold addMissing
  split <;> rfl

@[simp] theorem addMissing_body (name value : String) (response : Http.Response) :
    (addMissing name value response).body = response.body := by
  unfold addMissing
  split <;> rfl

@[simp] theorem addAllow_status (route : Option Route) (request : Http.Request)
    (response : Http.Response) : (addAllow route request response).status = response.status := by
  unfold addAllow
  split
  · exact addMissing_status ..
  · rfl

@[simp] theorem addAllow_body (route : Option Route) (request : Http.Request)
    (response : Http.Response) : (addAllow route request response).body = response.body := by
  unfold addAllow
  split
  · exact addMissing_body ..
  · rfl

@[simp] theorem complete_status (route : Option Route) (request : Http.Request)
    (response : Http.Response) : (complete route request response).status = response.status := by
  unfold complete
  split
  · rfl
  · split
    · rfl
    · dsimp only
      split <;> simp [addLength]

/-- Only a request with one of two methods gets no body. -/
theorem complete_body (route : Option Route) {request : Http.Request} (response : Http.Response)
    (hHead : request.method ≠ "HEAD") (hConnect : request.method ≠ "CONNECT") :
    (complete route request response).body = response.body := by
  rw [complete, if_neg fun h => hConnect h.1]
  split
  · rfl
  · dsimp only
    rw [addLength, addMissing_body, addAllow_body]

/-- No other header is touched. -/
@[simp] theorem addRequestId_values (id : Bytes) (response : Http.Response) {name : String}
    (h : name ≠ "x-request-id") :
    (addRequestId id response).headers.values name = response.headers.values name := by
  unfold addRequestId
  split
  · rfl
  · exact Http.Headers.values_set_of_ne _ h id

theorem addMissing_values (name value : String) (response : Http.Response) {other : String}
    (h : other ≠ name) :
    (addMissing name value response).headers.values other = response.headers.values other := by
  unfold addMissing
  split
  · rfl
  · exact Http.Headers.values_set_of_ne _ h _

/-- Only two headers are completed. -/
@[simp] theorem complete_values (route : Option Route) (request : Http.Request)
    (response : Http.Response) {name : String} (hAllow : name ≠ "allow")
    (hLength : name ≠ "content-length") :
    (complete route request response).headers.values name = response.headers.values name := by
  have hLengthened : (addLength (addAllow route request response)).headers.values name =
      response.headers.values name := by
    rw [addLength, addMissing_values _ _ _ hLength, addAllow]
    split
    · exact addMissing_values _ _ _ hAllow
    · rfl
  unfold complete
  split
  · rfl
  · split
    · rfl
    · dsimp only
      split <;> exact hLengthened

/-! ## Receiving -/

/-- What is left of an answer once panics are caught. -/
def recovered : Answer → Http.Response
  | .ok response => response
  | .error _ => Refusal.internal.response

/-- What is reported of an answer once panics are caught. -/
def panicEvents : Answer → List Event
  | .ok _ => []
  | .error panic => [.error "request handler panicked" [("panic", panicText panic)]]

/-- A panic becomes an answer, after the program and all that it has asked for. -/
theorem run_catchPanic {program : Program Answer} {scene : Scene σ} {answer : Answer}
    (h : (program.run world deadline scene).ending = .finished answer) :
    (catchPanic program).run world deadline scene =
      ⟨.finished (recovered answer), (program.run world deadline scene).scene,
        (program.run world deadline scene).trace ++ (panicEvents answer).map .logged⟩ := by
  rw [catchPanic, Program.run_bind_of_finished h]
  cases answer with
  | ok response => simp [Program.run, Outcome.behind, recovered, panicEvents]
  | error panic => simp [Program.run, Outcome.behind, recovered, panicEvents]

namespace Server

/-- A client that stays does so whatever time its request has. -/
theorem patience_stays (server : Server) : server.patience .stays = .stays := by
  unfold patience
  split <;> rfl

/-- A request of a patient client that the routes answer in time. -/
theorem receive_of_finished {server : Server} {timeout : Duration}
    (hTimeout : server.timeout = some timeout) {request : Http.Request}
    (hSmall : isTooLarge request = false) {scene : Scene σ} {answer : Answer}
    (h : ((dispatch server.routes request).run world (some timeout) scene).ending =
      .finished answer) (freshId : Bytes) :
    let outcome := (dispatch server.routes request).run world (some timeout) scene
    server.receive world .stays freshId request scene =
      (.response (complete (find? server.routes request) request
          (addRequestId (requestId request freshId) (recovered answer))),
        outcome.scene, outcome.trace ++ (panicEvents answer).map .logged) := by
  simp only [receive, hTimeout, receiveWithin, hSmall, patience_stays, attempt, Program.runAndClear,
    run_catchPanic h]
  rfl

/-- A request of a patient client that the routes do not answer in time. -/
theorem receive_of_dropped {server : Server} {timeout : Duration}
    (hTimeout : server.timeout = some timeout) {request : Http.Request}
    (hSmall : isTooLarge request = false) {scene : Scene σ} {holds : List Hold}
    (h : ((dispatch server.routes request).run world (some timeout) scene).ending =
      .dropped holds) (freshId : Bytes) :
    let outcome := (dispatch server.routes request).run world (some timeout) scene
    let cleared := (Hold.clearAll true holds).run world none outcome.scene
    server.receive world .stays freshId request scene =
      (.response (complete (find? server.routes request) request (.bare 408)), cleared.scene,
        outcome.trace ++ cleared.trace) := by
  have hRun : (catchPanic (dispatch server.routes request)).run world (some timeout) scene =
      ⟨.dropped holds, _, _⟩ := Program.run_bind_of_dropped h _
  simp only [receive, hTimeout, receiveWithin, hSmall, patience_stays, attempt,
    Program.runAndClear, hRun]
  rfl

/-- Whatever becomes of a request that is not too large, it shows what the routes have done. -/
theorem receive_shows {server : Server} {timeout : Duration}
    (hTimeout : server.timeout = some timeout) {request : Http.Request}
    (hSmall : isTooLarge request = false) (scene : Scene σ) (freshId : Bytes) :
    ((dispatch server.routes request).run world (some timeout) scene).trace <+:
      (server.receive world .stays freshId request scene).2.2 := by
  cases hEnding : ((dispatch server.routes request).run world (some timeout) scene).ending with
  | finished answer =>
      rw [receive_of_finished hTimeout hSmall hEnding]
      exact List.prefix_append ..
  | dropped holds =>
      rw [receive_of_dropped hTimeout hSmall hEnding]
      exact List.prefix_append ..

end Server

/-! ## Success comes from the routes -/

/-- How long a request may wait: as long as it is let, or not at all if its client leaves. -/
def Patience.limit (timeout : Option Duration) : Patience → Option Duration
  | .stays => timeout
  | .leaves _ => some .zero

namespace Server

variable {server : Server} {patience : Patience} {request : Http.Request} {scene : Scene σ}
  {response : Http.Response}

/-- How long a request may wait for what its routes wait for. -/
def limit (server : Server) (patience : Patience) : Option Duration :=
  (server.patience patience).limit server.timeout

/-- An attempt that gives a value was over in time. -/
theorem finished_of_attempt {α : Type} {timeout : Option Duration} {program : Program α}
    {value : α} (h : (attempt world timeout patience program scene).1 = some value) :
    (program.run world (patience.limit timeout) scene).ending = .finished value := by
  cases patience with
  | stays => exact Program.finished_of_runAndClear h
  | leaves runtime => exact Program.finished_of_runAndClear h

/-- An attempt that runs out of time gives nothing, and what it held is cleared. -/
theorem attempt_of_dropped {α : Type} {timeout : Option Duration} {program : Program α}
    {holds : List Hold}
    (h : (program.run world (patience.limit timeout) scene).ending = .dropped holds) :
    ∃ runtime cleared,
      cleared = (Hold.clearAll runtime holds).run world none
        (program.run world (patience.limit timeout) scene).scene ∧
      attempt world timeout patience program scene =
        (none, cleared.scene, (program.run world (patience.limit timeout) scene).trace ++
          cleared.trace) := by
  cases patience with
  | stays =>
      rw [Patience.limit] at h ⊢
      exact ⟨true, _, rfl, by rw [attempt, Program.runAndClear, h]⟩
  | leaves runtime =>
      rw [Patience.limit] at h ⊢
      exact ⟨runtime, _, rfl, by rw [attempt, Program.runAndClear, h]⟩

/-- An attempt that is over in time is the program. -/
theorem attempt_of_finished {α : Type} {timeout : Option Duration} {program : Program α}
    {value : α}
    (h : (program.run world (patience.limit timeout) scene).ending = .finished value) :
    attempt world timeout patience program scene =
      (some value, (program.run world (patience.limit timeout) scene).scene,
        (program.run world (patience.limit timeout) scene).trace) := by
  cases patience with
  | stays =>
      rw [Patience.limit] at h ⊢
      rw [attempt, Program.runAndClear, h]
  | leaves runtime =>
      rw [Patience.limit] at h ⊢
      rw [attempt, Program.runAndClear, h]

/-- All the ways in which a client can be answered within the boundary, given the run of the routes
for its request, with all that can be seen of it. -/
inductive Answering (world : World σ) (route : Option Route) (request : Http.Request) (id : Bytes)
    (routed : Outcome σ Answer) : Http.Response → List Entry → Prop
  | tooLarge (h : isTooLarge request = true) :
      Answering world route request id routed
        (complete route request (addRequestId id Site.tooLarge)) []
  | answered (answer : Answer) (h : routed.ending = .finished answer) :
      Answering world route request id routed
        (complete route request (addRequestId id (recovered answer)))
        (routed.trace ++ (panicEvents answer).map .logged)
  | timedOut (holds : List Hold) (h : routed.ending = .dropped holds) (runtime : Bool) :
      Answering world route request id routed (complete route request (.bare 408))
        (routed.trace ++ ((Hold.clearAll runtime holds).run world none routed.scene).trace)

/-- What a server with a timeout answers, as far as its outer layers go. -/
theorem answering_of_receive {timeout : Duration} (hTimeout : server.timeout = some timeout)
    {freshId : Bytes}
    (h : (server.receive world patience freshId request scene).1 = .response response) :
    Answering world (find? server.routes request) request (requestId request freshId)
      ((dispatch server.routes request).run world (server.limit patience) scene) response
      (server.receive world patience freshId request scene).2.2 := by
  unfold receive at h ⊢
  unfold limit
  rw [hTimeout] at h ⊢
  dsimp only at h ⊢
  generalize server.patience patience = patience at h ⊢
  unfold receiveWithin at h ⊢
  dsimp only at h ⊢
  cases hLarge : isTooLarge request with
  | true =>
      rw [hLarge, if_pos rfl] at h
      cases h
      exact .tooLarge hLarge
  | false =>
      rw [hLarge, if_neg Bool.false_ne_true] at h
      rw [if_neg Bool.false_ne_true]
      cases hEnding : ((dispatch server.routes request).run world (patience.limit (some timeout))
          scene).ending with
      | finished answer =>
          have hRun := run_catchPanic hEnding
          rw [attempt_of_finished (congrArg Outcome.ending hRun), hRun] at h ⊢
          cases h
          exact .answered answer hEnding
      | dropped holds =>
          have hRun : (catchPanic (dispatch server.routes request)).run world
              (patience.limit (some timeout)) scene = ⟨.dropped holds, _, _⟩ :=
            Program.run_bind_of_dropped hEnding _
          obtain ⟨runtime, _, rfl, hAttempt⟩ :=
            attempt_of_dropped (congrArg Outcome.ending hRun)
          rw [hAttempt, hRun] at h ⊢
          cases patience with
          | stays =>
              cases h
              exact .timedOut holds hEnding runtime
          | leaves => cases h

/-- A client that stays is answered. -/
theorem exists_response_of_stays {timeout : Duration} (hTimeout : server.timeout = some timeout)
    {freshId : Bytes} :
    ∃ response, (server.receive world .stays freshId request scene).1 = .response response := by
  unfold receive
  rw [hTimeout]
  dsimp only
  rw [patience_stays]
  unfold receiveWithin
  dsimp only
  split
  · exact ⟨_, rfl⟩
  · split
    · exact ⟨_, rfl⟩
    · exact ⟨_, rfl⟩

/-- A bare server completes the response of the program and does no more. -/
theorem finished_of_receiveBare
    (h : (server.receiveBare world patience request scene).1 = .response response) :
    ∃ inner, ((dispatch server.routes request).run world (patience.limit none) scene).ending =
        .finished (.ok inner) ∧
      response = complete (find? server.routes request) request inner := by
  unfold receiveBare at h
  dsimp only at h
  split at h
  · cases h
  · cases h
  · next inner _ _ hAttempt =>
    cases h
    exact ⟨inner, finished_of_attempt (congrArg Prod.fst hAttempt), rfl⟩

/-- A request to read that is told of success was answered by the routes, in time, with the same
status and body. -/
theorem exists_finished_of_receive {freshId : Bytes} (hMethod : request.method = "GET")
    (h : (server.receive world patience freshId request scene).1 = .response response)
    (hStatus : response.status = 200) :
    ∃ inner, ((dispatch server.routes request).run world (server.limit patience) scene).ending =
        .finished (.ok inner) ∧ inner.status = response.status ∧ inner.body = response.body := by
  have hBody (inner : Http.Response) :
      (complete (find? server.routes request) request inner).body = inner.body :=
    complete_body _ inner (by simp [hMethod]) (by simp [hMethod])
  cases hTimeout : server.timeout with
  | none =>
      unfold receive at h
      unfold limit
      rw [hTimeout] at h ⊢
      have hPatience : server.patience patience = patience := by simp [Server.patience, hTimeout]
      obtain ⟨inner, hRun, rfl⟩ := finished_of_receiveBare h
      rw [hPatience]
      exact ⟨inner, hRun, by simp, (hBody inner).symm⟩
  | some timeout =>
      have hAnswering := answering_of_receive hTimeout h
      generalize (server.receive world patience freshId request scene).2.2 = trace at hAnswering
      -- Neither a refusal of the boundary nor a panic nor a timeout tells of success.
      cases hAnswering with
      | tooLarge => simp [Site.tooLarge, Http.Response.text] at hStatus
      | timedOut => simp [Http.Response.bare] at hStatus
      | answered answer hRun =>
          cases answer with
          | ok inner =>
              exact ⟨inner, hRun, by simp [recovered], by simp [hBody, recovered]⟩
          | error panic =>
              simp [recovered, Refusal.response, Refusal.status, Http.Response.json] at hStatus

/-- What every call keeps of the surroundings, every request keeps. -/
theorem receive_keeps {kept : σ → Prop}
    (hWorld : ∀ call state, kept state → kept (world call state).2) (server : Server)
    (patience : Patience) (freshId : Bytes) (request : Http.Request) (scene : Scene σ)
    (hScene : kept scene.world) :
    kept (server.receive world patience freshId request scene).2.1.world := by
  have hAttempt {α : Type} (timeout : Option Duration) (patience : Patience)
      (program : Program α) : kept (attempt world timeout patience program scene).2.1.world := by
    cases patience with
    | stays => exact Program.runAndClear_keeps hWorld _ _ _ hScene
    | leaves runtime => exact Program.runAndClear_keeps hWorld _ _ _ hScene
  unfold receive
  split
  · have hBare := hAttempt none patience (dispatch server.routes request)
    unfold receiveBare
    dsimp only
    split
    · next hEq => rwa [hEq] at hBare
    · next hEq => rwa [hEq] at hBare
    · next hEq => rwa [hEq] at hBare
  · next timeout _ =>
    have hWithin := hAttempt (some timeout) (server.patience patience)
      (catchPanic (dispatch server.routes request))
    unfold receiveWithin
    dsimp only
    split
    · exact hScene
    · split
      · next hEq => rwa [hEq] at hWithin
      · next hEq => rwa [hEq] at hWithin

end Server

end Gatehouse.Site
