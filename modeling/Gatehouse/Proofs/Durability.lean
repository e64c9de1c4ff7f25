import Gatehouse.Proofs.StageOrder

/-! Durability. A request is told of success just if its transaction was committed. The response
of its handler reaches it unchanged unless the commit failed, and then it is told of a failure. -/
namespace Gatehouse.Pipeline

variable {σ : Type} {world : World σ} {deadline : Option Duration} {gate : Gate}
    {handler : Handler} {request : Http.Request} {scene : Scene σ}

/-- The answer of a request fits what became of its transaction, given what its handler came to. -/
structure Agrees (result answer : Answer) (trace : List Entry) : Prop where
  success : (∃ response, answer = .ok response ∧ response.status < 400) ↔
    .answered .commit (.ok ()) ∈ trace
  unchanged : ∀ response, result = .ok response →
    (∀ error, .answered .commit (.error error) ∉ trace) → answer = .ok response
  failure : ∀ error, .answered .commit (.error error) ∈ trace →
    (∃ response, result = .ok response ∧ response.status < 400) ∧
      answer = Answer.refuse .internal

/-- What was seen earlier does not matter if there was no commit in it. -/
theorem Agrees.behind {result answer : Answer} {trace : List Entry}
    (h : Agrees result answer trace) {before : List Entry}
    (hBefore : .commit ∉ callsOf before) : Agrees result answer (before ++ trace) := by
  have hMem (reply : Except Database.Error Unit) :
      .answered .commit reply ∈ before ++ trace ↔ .answered .commit reply ∈ trace := by
    rw [List.mem_append]
    exact or_iff_right fun hMem => hBefore (mem_callsOf_of_answered hMem)
  refine ⟨?_, ?_, ?_⟩
  · rw [hMem]
    exact h.success
  · intro response hResult hCommits
    exact h.unchanged response hResult fun error hError => hCommits error ((hMem _).mpr hError)
  · intro error hError
    exact h.failure error ((hMem _).mp hError)

/-- A rollback is no commit. -/
theorem commit_not_mem_rollbackEvents (cause : String) (undone reply : Except Database.Error Unit) :
    .answered .commit reply ∉
      .answered .rollback undone :: (rollbackEvents cause undone).map Entry.logged := by
  intro hMem
  have hCall := mem_callsOf_of_answered hMem
  simp at hCall

/-- A success is told after a commit that succeeded, and only then. -/
theorem Finishing.agrees {tenant : String} {result answer : Answer} {trace : List Entry}
    (h : Finishing tenant result (.finished answer) trace) : Agrees result answer trace := by
  cases h with
  | rolledBack undone hFinal =>
      have hNone := commit_not_mem_rollbackEvents (finalCause result) undone
      refine ⟨⟨?_, fun hOk => (hNone _ hOk).elim⟩, fun response hResult _ => hResult,
        fun error hError => (hNone _ hError).elim⟩
      rintro ⟨response, rfl, hGood⟩
      have hBad := finalCall_rollback hFinal
      omega
  | committed hFinal =>
      refine ⟨⟨fun _ => List.mem_singleton.mpr rfl, fun _ => finalCall_commit hFinal⟩,
        fun response hResult _ => hResult, fun error hError => ?_⟩
      cases List.mem_singleton.mp hError
  | commitFailed error hFinal =>
      refine ⟨⟨?_, ?_⟩, fun response _ hCommits => (hCommits error (List.mem_cons_self ..)).elim,
        fun _ _ => ⟨finalCall_commit hFinal, rfl⟩⟩
      · rintro ⟨response, hResponse, hGood⟩
        cases hResponse
        exact absurd hGood (by decide)
      · intro hOk
        rcases List.mem_cons.mp hOk with hOk | hOk
        · cases hOk
        · cases List.mem_singleton.mp hOk

/-- The answer agrees with the end of the transaction around the handler. -/
theorem Serving.agrees {tenant : String} {handled : Outcome σ Answer} {answer : Answer}
    {last : Scene σ} {trace : List Entry}
    (h : Serving tenant handled (.finished answer) last trace)
    (hWork : ∀ call ∈ callsOf handled.trace, IsWork call) :
    ∃ result, handled.ending = .finished result ∧ Agrees result answer trace := by
  cases h with
  | closed result hResult _ _ _ rest hFinishing =>
      refine ⟨result, hResult, ?_⟩
      rw [← List.singleton_append, ← List.append_assoc]
      refine hFinishing.agrees.behind fun hCommit => ?_
      rw [callsOf_append, List.mem_append] at hCommit
      rcases hCommit with hCommit | hCommit
      · exact hWork .commit hCommit
      · cases List.mem_singleton.mp hCommit

/-- The run of the handler of a request whose transaction is opened from a scene on. -/
def handlingBound (world : World σ) (deadline : Option Duration) (gate : Gate) (context : Context)
    (tenant : Tenant) (handler : Handler) (request : Http.Request) (scene : Scene σ) :
    Outcome σ Answer :=
  handling world deadline handler request { context with transaction := some tenant.id }
    ((opening gate.tenantSetting tenant.id).run world deadline scene).scene

/-- A request that cannot begin its transaction is refused. -/
theorem Opening.refused {setting tenant : String} {answer : Answer} {trace : List Entry}
    (h : Opening setting tenant (.finished (.error answer)) trace) :
    answer = Answer.refuse .internal := by
  cases h <;> rfl

/-- Nothing is committed while a transaction is being opened. -/
theorem commit_not_mem_opening (setting tenant : String) (scene : Scene σ) :
    .commit ∉ callsOf ((opening setting tenant).run world deadline scene).trace := by
  intro hCommit
  rcases opening_calls (run_opening world deadline setting tenant scene) _ hCommit with
    h | h | h <;> cases h

/-- A request that is answered was refused before its handler, with nothing committed, or it is
answered in agreement with what its handler came to. -/
theorem agrees_of_isolate {context : Context} {tenant : Tenant}
    (hTenant : context.tenant = some tenant) {answer : Answer}
    (hEnds : ((isolate gate context (handler request)).run world deadline scene).ending =
      .finished answer) :
    let opened := (opening gate.tenantSetting tenant.id).run world deadline scene
    let handled := handlingBound world deadline gate context tenant handler request scene
    let trace := ((isolate gate context (handler request)).run world deadline scene).trace
    (opened.ending ≠ .finished (.ok ()) ∧ answer = Answer.refuse .internal ∧
        .commit ∉ callsOf trace) ∨
      opened.ending = .finished (.ok ()) ∧
        ∃ result, handled.ending = .finished result ∧ Agrees result answer trace := by
  intro opened handled trace
  have hUncommitted : .commit ∉ callsOf opened.trace := commit_not_mem_opening _ _ scene
  dsimp only [trace]
  rw [isolate_eq gate hTenant] at hEnds ⊢
  obtain ⟨result, hOpened, hRest⟩ := Program.finished_of_run_bind hEnds
  rw [Program.run_bind_of_finished hOpened]
  cases result with
  | error refused =>
      have hRefused : refused = Answer.refuse .internal :=
        (hOpened ▸ run_opening world deadline gate.tenantSetting tenant.id scene).refused
      cases hRest
      refine .inl ⟨?_, hRefused, ?_⟩
      · rw [show opened.ending = _ from hOpened]
        nofun
      · simpa [Program.run] using hUncommitted
  | ok value =>
      have hServing := run_serveBound world deadline tenant.id context handler request opened.scene
      dsimp only at hRest hServing ⊢
      rw [hRest] at hServing
      obtain ⟨hWork, -, -⟩ := handling_works world deadline handler request
        { context with transaction := some tenant.id } opened.scene
      obtain ⟨result, hResult, hAgrees⟩ := hServing.agrees hWork
      exact .inr ⟨hOpened, result, hResult, hAgrees.behind hUncommitted⟩

/-- What a client is told of a failure within the service. -/
def internalBody : String :=
  "\x7b\"error\":\x7b\"code\":\"INTERNAL_SERVER_ERROR\",\"message\":\"internal server error\"\x7d\x7d"

theorem body_internal : Refusal.internal.response.body = internalBody := by
  decide

/-- Whatever the database answers, the isolation stage answers a request of a tenant with a status
below 400 just if the transaction was committed. Where the handler has come to a response, that is
the answer as it is, even if a rollback has failed, unless the commit was tried and failed: then
the handler had told of success, and the answer is an internal error that tells nothing more. -/
theorem success_told_iff_committed {context : Context} {tenant : Tenant}
    (hTenant : context.tenant = some tenant) {answer : Answer}
    (hEnds : ((isolate gate context (handler request)).run world deadline scene).ending =
      .finished answer) :
    let opened := (opening gate.tenantSetting tenant.id).run world deadline scene
    let handled := handlingBound world deadline gate context tenant handler request scene
    let trace := ((isolate gate context (handler request)).run world deadline scene).trace
    ((∃ response, answer = .ok response ∧ response.status < 400) ↔
        .answered .commit (.ok ()) ∈ trace) ∧
      (∀ response, opened.ending = .finished (.ok ()) → handled.ending = .finished (.ok response) →
        (∀ error, .answered .commit (.error error) ∉ trace) → answer = .ok response) ∧
      ∀ error, .answered .commit (.error error) ∈ trace →
        (∃ response, opened.ending = .finished (.ok ()) ∧
          handled.ending = .finished (.ok response) ∧ response.status < 400) ∧
        ∃ failure, answer = .ok failure ∧ failure.status = 500 ∧ failure.body = internalBody := by
  intro opened handled trace
  rcases agrees_of_isolate hTenant hEnds with
    ⟨hUnopened, rfl, hNone⟩ | ⟨hOpened, result, hResult, hAgrees⟩
  · refine ⟨⟨?_, fun hOk => (hNone (mem_callsOf_of_answered hOk)).elim⟩,
      fun _ hOpened => (hUnopened hOpened).elim,
      fun _ hError => (hNone (mem_callsOf_of_answered hError)).elim⟩
    rintro ⟨response, hResponse, hGood⟩
    cases hResponse
    exact absurd hGood (by decide)
  · refine ⟨hAgrees.success, ?_, ?_⟩
    · intro response _ hResponse hCommits
      rw [show handled.ending = _ from hResult] at hResponse
      exact hAgrees.unchanged response (Ending.finished.inj hResponse) hCommits
    · intro error hError
      obtain ⟨⟨response, rfl, hGood⟩, hAnswer⟩ := hAgrees.failure error hError
      exact ⟨⟨response, hOpened, hResult, hGood⟩, _, hAnswer, rfl, body_internal⟩

/-! ## A commit that fails -/

/-- Surroundings in which the connection is lost when a transaction is to be committed. -/
def losingWorld : World Unit
  | .commit, _ => (.now (.error (.commit "connection reset")), ())
  | call, state => sampleWorld .zero call state

def creating : Handler := fun _ _ => .done (.ok (.bare 201))

/-- A handler has succeeded and its commit fails, so the client is told of an error. -/
theorem lost_commit_told :
    let context : Context := ⟨some ⟨"t1", "acme"⟩, none, none⟩
    let outcome := (isolate sampleGate context (creating sampleRequest)).run losingWorld none
      (.fresh ())
    outcome.ending = .finished (Answer.refuse .internal) ∧
      .answered .commit (.error (.commit "connection reset")) ∈ outcome.trace ∧
      (∃ response, (handlingBound losingWorld none sampleGate context ⟨"t1", "acme"⟩ creating
          sampleRequest (.fresh ())).ending = .finished (.ok response) ∧ response.status < 400) ∧
      ∃ failure, Answer.refuse .internal = .ok failure ∧ failure.status = 500 ∧
        failure.body = internalBody := by
  intro context outcome
  have hEnds : outcome.ending = .finished (Answer.refuse .internal) := rfl
  have hFailed : .answered .commit (.error (.commit "connection reset")) ∈ outcome.trace :=
    by
    have hFourth : outcome.trace[3]? =
        some (.answered .commit (.error (.commit "connection reset"))) := rfl
    exact List.mem_of_getElem? hFourth
  obtain ⟨⟨response, -, hHandled, hGood⟩, hTold⟩ :=
    (success_told_iff_committed rfl hEnds).2.2 _ hFailed
  exact ⟨hEnds, hFailed, ⟨response, hHandled, hGood⟩, hTold⟩

end Gatehouse.Pipeline
