import Mathlib
import Gatehouse.Proofs.TenantBinding

/-! Finalization. A transaction that was begun for a request is finished exactly once before the
request is answered, by the operation that the outcome of the handler asks for. -/
namespace Gatehouse.Pipeline

variable {σ : Type} {world : World σ} {deadline : Option Duration} {gate : Gate} {access : Access}
    {request : Http.Request} {scene : Scene σ}

/-! ## Operations -/

/-- A call that begins a transaction or works on it, to the end. -/
def isOperation : Call → Bool
  | .begin | .bind _ _ | .execute _ | .readSetting _ | .commit | .rollback | .letGo => true
  | _ => false

/-- The operations of a run, in order. -/
def operations (trace : List Entry) : List Call :=
  (callsOf trace).filter isOperation

/-- An operation that leaves a transaction open. -/
def IsStatement : Call → Prop
  | .execute _ | .readSetting _ => True
  | _ => False

@[simp] theorem operations_append (first second : List Entry) :
    operations (first ++ second) = operations first ++ operations second := by
  simp [operations]

/-- A request that has not begun its transaction has done nothing on the database. -/
theorem operations_of_preliminary {trace : List Entry}
    (h : ∀ call ∈ callsOf trace, IsPreliminary call) : operations trace = [] := by
  refine List.filter_eq_nil_iff.mpr fun call hCall => ?_
  have hPreliminary := h call hCall
  cases call <;> first | exact hPreliminary.elim | exact Bool.false_ne_true

/-- The work of a handler on the database consists of statements. -/
theorem isStatement_of_work {trace : List Entry} (h : ∀ call ∈ callsOf trace, IsWork call) :
    ∀ call ∈ operations trace, IsStatement call := by
  intro call hCall
  obtain ⟨hMem, hOperation⟩ := List.mem_filter.mp hCall
  have hWork := h call hMem
  cases call <;> first | exact trivial | exact hWork.elim | cases hOperation

theorem isOperation_finalCall (result : Answer) : isOperation (finalCall result) = true := by
  rcases finalCall_eq result with h | h <;> rw [h] <;> rfl

/-- The end of a transaction is one operation. -/
theorem operations_of_finishing {tenant : String} {result : Answer} {ending : Ending Answer}
    {trace : List Entry} (h : Finishing tenant result ending trace) :
    operations trace = [finalCall result] := by
  rw [operations, callsOf_finishing h, List.filter_cons_of_pos (isOperation_finalCall result),
    List.filter_nil]

/-- The transaction is never found to be gone when it is to be finished. -/
theorem finishing_events {tenant : String} {result : Answer} {ending : Ending Answer}
    {trace : List Entry} (h : Finishing tenant result ending trace) :
    finishedElsewhereEvent tenant ∉ eventsOf trace := by
  cases h with
  | dropped => simp [eventsOf, Entry.event?]
  | committed => simp [eventsOf, Entry.event?]
  | commitFailed error =>
      simp [eventsOf, Entry.event?, finishedElsewhereEvent, failureEvent, Event.error]
  | rolledBack reply =>
      cases reply <;>
        simp [eventsOf, Entry.event?, finishedElsewhereEvent, rollbackEvents, Event.error]

/-- A panic that a request is answered with was passed on after the rollback. -/
theorem answer_of_finishing {tenant : String} {panic : Panic} {ending : Ending Answer}
    {trace : List Entry} {tell : Answer → Answer} {answer : Answer}
    (h : Finishing tenant (.error panic) ending trace)
    (hAnswer : ending.map tell = .finished answer) : answer = tell (.error panic) := by
  cases h with
  | dropped => cases hAnswer
  | rolledBack => exact (Ending.finished.inj hAnswer).symm
  | committed hFinal => cases hFinal
  | commitFailed error hFinal => cases hFinal

/-! ## All requests -/

/-- The ways in which the transaction of an answered request was finished. -/
inductive Finalized (world : World σ) (deadline : Option Duration) (gate : Gate) (access : Access)
    (handler : Handler) (request : Http.Request) (scene : Scene σ) (outcome : Outcome σ Answer)
    (answer : Answer) : Prop
  /-- No transaction was begun, so there was none to finish. -/
  | unopened (hBegin : .answered .begin (.ok ()) ∉ outcome.trace)
      (hOperations : operations outcome.trace = [] ∨ operations outcome.trace = [.begin])
      (hWork : ∀ call ∈ callsOf outcome.trace, ¬ IsWork call)
  /-- The transaction could not be bound and was rolled back. -/
  | unbound (tenant : Tenant) (error : Database.Error)
      (hBegin : .answered .begin (.ok ()) ∈ outcome.trace)
      (hBind : .answered (.bind gate.tenantSetting tenant.id) (.error error) ∈ outcome.trace)
      (hOperations : operations outcome.trace =
        [.begin, .bind gate.tenantSetting tenant.id, .rollback])
      (hWork : ∀ call ∈ callsOf outcome.trace, ¬ IsWork call)
  /-- The handler was called on the bound transaction. After its last statement the transaction was
  taken out of the slot, where it was found, and finished as the result of the handler asks for. -/
  | served (tenant : Tenant) (context : Context) (before : List Entry) (entry : Scene σ)
      (hBound : CallsBound world deadline gate access request scene tenant context before entry)
      (handled : Outcome σ Answer)
      (hHandled : handled = (handler request context).toProgram.run world deadline entry)
      (result : Answer) (hResult : handled.ending = .finished result) (after : List Entry)
      (hTrace : outcome.trace = before ++ handled.trace ++ after)
      (hOperations : operations outcome.trace =
        .begin :: .bind gate.tenantSetting tenant.id :: operations handled.trace ++
          [finalCall result])
      (hStatements : ∀ call ∈ operations handled.trace, IsStatement call)
      (hPanic : ∀ panic, result = .error panic → answer = .error panic)
      (hFound : finishedElsewhereEvent tenant.id ∉ eventsOf after)
      (hClosed : outcome.scene.handle.slot.isOpen = false)

/-- A request that is admitted has begun its transaction and bound its tenant, and nothing else. -/
theorem operations_of_admitted {admitted : Admitted}
    (h : ((approach gate access request).run world deadline scene).ending =
      .finished (.ok admitted)) :
    operations ((approach gate access request).run world deadline scene).trace =
      [.begin, .bind gate.tenantSetting admitted.tenant.id] := by
  obtain ⟨-, earlier, hEarlier, hTrace⟩ := approach_admitted h
  rw [hTrace, operations_append, operations_of_preliminary hEarlier]
  rfl

/-- A request that is answered before its transaction has none to finish. -/
theorem finalized_of_answered {answer : Answer}
    (h : ((approach gate access request).run world deadline scene).ending =
      .finished (.error answer)) (handler : Handler) :
    Finalized world deadline gate access handler request scene
      ⟨.finished answer, ((approach gate access request).run world deadline scene).scene,
        ((approach gate access request).run world deadline scene).trace⟩ answer := by
  have hWork : ∀ call ∈ callsOf ((approach gate access request).run world deadline scene).trace,
      ¬ IsWork call := not_isWork_of_approach
  have hRun := run_approach world deadline gate access request scene
  generalize (approach gate access request).run world deadline scene = outcome at h hRun hWork ⊢
  obtain ⟨ending, after, trace⟩ := outcome
  dsimp only at h hRun hWork ⊢
  cases hRun with
  | dropped => cases h
  | answered _ hEarlier =>
      exact .unopened (begin_not_mem_of_preliminary hEarlier _)
        (.inl (operations_of_preliminary hEarlier)) hWork
  | admitted earlier hEarlier admitted hAdmits ending trace hOpening =>
      have hOperations : operations (earlier ++ trace) = operations trace := by
        rw [operations_append, operations_of_preliminary hEarlier, List.nil_append]
      cases hOpening with
      | beginDropped => cases h
      | bindDropped => cases h
      | rollbackDropped => cases h
      | opened => cases h
      | beginFailed error =>
          refine .unopened ?_ (.inr hOperations) hWork
          simp [begin_not_mem_of_preliminary hEarlier]
      | rolledBack error reply =>
          refine .unbound admitted.tenant error ?_ ?_ ?_ hWork
          · simp
          · simp
          · rw [hOperations]
            simp [operations, isOperation]

/-- Whatever the directory, the counter store and the database answer and whatever its handler
does, a request that is answered has finished the transaction that was begun for it, if there was
one, exactly once and as the last operation on it. It was committed if it was bound and the handler
came to a status below 400, and rolled back in all other cases. A panic of the handler is passed on
as it was, after the rollback. -/
theorem transaction_finished_once {handler : Handler} {answer : Answer}
    (hEnds : ((apply gate access handler request).run world deadline scene).ending =
      .finished answer) :
    Finalized world deadline gate access handler request scene
      ((apply gate access handler request).run world deadline scene) answer := by
  cases hApproach : ((approach gate access request).run world deadline scene).ending with
  | dropped holds =>
      rw [run_apply_of_dropped hApproach] at hEnds
      cases hEnds
  | finished admission =>
      cases admission with
      | error answer =>
          rw [run_apply_of_answered hApproach] at hEnds ⊢
          cases hEnds
          exact finalized_of_answered hApproach handler
      | ok admitted =>
          obtain ⟨ending, rest, hEnding, hTrace, hServing⟩ :=
            run_apply_of_admitted hApproach handler
          have hBound := callsBound_of_admitted hApproach
          obtain ⟨hAdmits, -⟩ := approach_admitted hApproach
          obtain ⟨hWork, -, -⟩ := handling_works world deadline handler request
            admitted.context ((approach gate access request).run world deadline scene).scene
          rw [hEnds] at hEnding
          generalize (apply gate access handler request).run world deadline scene = outcome
            at hTrace hServing ⊢
          generalize hScene : outcome.scene = last at hServing
          cases hServing with
          | handlerDropped => cases hEnding
          | takeDropped => cases hEnding
          | closed result hResult last hClosed ending rest hFinishing =>
              have hFound : finishedElsewhereEvent admitted.tenant.id ∉ eventsOf rest :=
                finishing_events hFinishing
              have hClosing : operations (.answered .untilFree () :: rest) =
                  [finalCall result] := by
                change operations rest = _
                exact operations_of_finishing hFinishing
              refine .served admitted.tenant admitted.context _ _ hBound _ rfl result hResult
                (.answered .untilFree () :: rest) ?_ ?_ (isStatement_of_work hWork) ?_ hFound
                (hScene ▸ hClosed)
              · rw [hTrace, List.append_assoc]
                rfl
              · rw [hTrace, operations_append, operations_append, operations_of_admitted hApproach,
                  hClosing]
                rfl
              · rintro panic rfl
                rw [answer_of_finishing hFinishing hEnding.symm, hAdmits.panic]

/-! ## A request -/

def sampleGate : Gate where
  key := ⟨List.replicate 32 7, rfl⟩
  limiter := ⟨⟨"", ⟨1, 1, .ofSeconds 1⟩⟩, .lenient, .ofSeconds 1, "redis"⟩
  tenants := .directory
  cookieFallback := false
  tenantSetting := "app.tenant"

def sampleRequest : Http.Request :=
  ⟨"POST", ⟨none, ['/']⟩, ⟨[("host", [97, 99, 109, 101, 46, 97, 112, 112])]⟩, none, 0⟩

/-- Asks for the tenant of its host. -/
def tenantRequest : Http.Request :=
  { sampleRequest with method := "GET", target := ⟨none, "/api/v1/tenant".toList⟩ }

/-- Surroundings in which binding a transaction takes some time, and statements fail. -/
def sampleWorld (binding : Duration) : World Unit
  | .lookup _, _ => (.now (.ok "t1"), ())
  | .readCache _, _ => (.now (.ok none), ())
  | .writeCache _ _ _, _ => (.now (.ok ()), ())
  | .deleteCache _, _ => (.now (.ok 0), ())
  | .count _ _ _, _ => (.now (some (.ok ⟨true, 0, .zero, .zero⟩)), ())
  | .begin, _ => (.now (.ok ()), ())
  | .bind _ _, _ => (.after binding (.ok ()), ())
  | .execute _, _ => (.now (.error (.statement "timeout")), ())
  | .readSetting _, _ => (.now (.ok none), ())
  | .commit, _ => (.now (.ok ()), ())
  | .rollback, _ => (.now (.ok ()), ())
  | .letGo, _ => (.now (), ())
  | .untilFree, _ => (.now (), ())
  | .keep _, _ => (.now (), ())
  | .pause duration, _ => (.after duration (), ())

/-- Gives a clone of its handle away, fails to run a statement, waits and panics. -/
def sampleHandler (wait : Duration) : Handler := fun _ _ =>
  .keep "t1" <| .execute "INSERT" fun _ => .pause wait <| .done (.error (.text "no row"))

/-- The handler panics, and its transaction is rolled back once. -/
theorem panic_finished_once :
    let outcome := (apply sampleGate .everyone (sampleHandler .zero) sampleRequest).run
      (sampleWorld .zero) none (.fresh ())
    outcome.ending = .finished (.error (.text "no row")) ∧
      Finalized (sampleWorld .zero) none sampleGate .everyone (sampleHandler .zero) sampleRequest
        (.fresh ()) outcome (.error (.text "no row")) ∧
      operations outcome.trace =
        [.begin, .bind "app.tenant" "t1", .execute "INSERT", .rollback] := by
  have hEnds : ((apply sampleGate .everyone (sampleHandler .zero) sampleRequest).run
      (sampleWorld .zero) none (.fresh ())).ending = .finished (.error (.text "no row")) := by cbv
  exact ⟨hEnds, transaction_finished_once hEnds, by cbv⟩

end Gatehouse.Pipeline
