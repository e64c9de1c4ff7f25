import Gatehouse.Proofs.Finalization

/-! Cancellation. A request can be dropped wherever it waits. Once its transaction is bound, a drop
rolls it back, as long as there is a runtime for that. While it is being bound, a drop lets go of
it without a rollback. -/
namespace Gatehouse

variable {σ : Type} {world : World σ} {deadline : Option Duration}

/-- A program that is dropped has what it held cleared after it. -/
theorem Program.runAndClear_of_dropped {α : Type} {program : Program α} {scene : Scene σ}
    {holds : List Hold} (h : (program.run world deadline scene).ending = .dropped holds)
    (runtime : Bool) :
    let outcome := program.run world deadline scene
    (program.runAndClear world deadline runtime scene).2.2 = outcome.trace ++
      ((Hold.clearAll runtime holds).run world none outcome.scene).trace := by
  simp [runAndClear, h]

namespace Pipeline

/-! ## Clearing away -/

theorem clearAll_singleton (runtime : Bool) (hold : Hold) :
    Hold.clearAll runtime [hold] = hold.clear runtime :=
  Program.bind_done _

/-- Clearing a transaction lets it go and asks for nothing else. -/
theorem operations_clear_transaction (runtime : Bool) (scene : Scene σ) :
    operations ((Hold.clearAll runtime [.transaction]).run world none scene).trace = [.letGo] := by
  rw [clearAll_singleton]
  change operations ((Program.ask .letGo [] .done).run world none scene).trace = _
  rw [Program.run_ask]
  cases scene.ask world none .letGo <;> rfl

/-- With a runtime, an open transaction is rolled back as soon as nobody works on it. -/
theorem operations_clear_rollback (tenant : String) {scene : Scene σ}
    (hOpen : scene.handle.slot = .hold ()) (hFree : (world .untilFree scene.world).1 ≠ .never) :
    operations ((Hold.clearAll true [.rollback tenant]).run world none scene).trace =
      [.rollback] := by
  obtain ⟨answer, after, hAsk⟩ := Scene.exists_ask_ok hFree
  have hContent : after.handle.slot.content = some () := by
    rw [Scene.handle_of_ask_ok hAsk, hOpen]
    rfl
  have hRollBack (scene : Scene σ) :
      operations ((Program.rollBack "cancelled").run world none scene).trace = [.rollback] := by
    rw [Program.run_rollBack]
    cases scene.ask world none .rollback with
    | error after => rfl
    | ok result => simp [operations, isOperation]
  rw [clearAll_singleton]
  change operations ((Program.takeTransaction.bind _).run world none scene).trace = _
  rw [Program.run_bind, Program.run_takeTransaction, hAsk]
  simp only [Outcome.andThen, hContent]
  exact hRollBack _

variable (world) in
/-- Without a runtime, nothing is rolled back. -/
theorem operations_clear_without_runtime (tenant : String) (scene : Scene σ) :
    ∀ call ∈ operations ((Hold.clearAll false [.rollback tenant]).run world none scene).trace,
      call = .letGo := by
  have hObeys : (Hold.clear false (.rollback tenant)).Obeys (fun call _ => call = .letGo)
      fun _ => True := by
    refine fun handle _ => ⟨trivial, ?_⟩
    change Program.Obeys _ _ (if _ then _ else _)
    split
    · exact fun _ _ => ⟨trivial, rfl, fun _ => trivial⟩
    · trivial
  obtain ⟨hCalls, -, -⟩ := hObeys.run world none scene trivial
  rw [clearAll_singleton]
  intro call hCall
  exact (hCalls call (List.mem_filter.mp hCall).1).choose_spec

/-- The duty to roll back is met, once, where there is a runtime. -/
theorem clear_rollback_count (runtime : Bool) (tenant : String) {scene : Scene σ}
    (hOpen : scene.handle.slot = .hold ()) (hFree : (world .untilFree scene.world).1 ≠ .never) :
    let cleared :=
      operations ((Hold.clearAll runtime [.rollback tenant]).run world none scene).trace
    .commit ∉ cleared ∧ cleared.count .rollback = if runtime then 1 else 0 := by
  dsimp only
  cases runtime with
  | true => simp [operations_clear_rollback tenant hOpen hFree]
  | false =>
      have hLetGo := operations_clear_without_runtime world tenant scene
      refine ⟨fun hMem => ?_, List.count_eq_zero.mpr fun hMem => ?_⟩
      · cases hLetGo _ hMem
      · cases hLetGo _ hMem

/-! ## Dropped requests -/

/-- The ways in which a request can be dropped while its transaction is open, with all that is left
behind. -/
inductive DroppedOpen (setting : String) : List Hold → Handle → List Entry → Prop
  | binding (tenant : String) (handle : Handle) (trace : List Entry)
      (hDropped : .dropped (.bind setting tenant) ∈ trace)
      (hOperations : operations trace = [.begin, .bind setting tenant]) :
      DroppedOpen setting [.transaction] handle trace
  | bound (tenant : String) (handle : Handle) (trace : List Entry) (statements : List Call)
      (hOpen : handle.slot = .hold ()) (hBound : ∀ name value, .dropped (.bind name value) ∉ trace)
      (hOperations : operations trace = .begin :: .bind setting tenant :: statements)
      (hStatements : ∀ call ∈ statements, IsStatement call) :
      DroppedOpen setting [.rollback tenant] handle trace

variable {gate : Gate} {access : Access} {handler : Handler} {request : Http.Request}
    {scene : Scene σ}

/-- Before its handler is called, a request holds an open transaction only while that is bound. -/
theorem droppedOpen_of_approach {holds : List Hold}
    (hDropped : ((approach gate access request).run world deadline scene).ending = .dropped holds)
    (hBegun : .answered .begin (.ok ()) ∈
      ((approach gate access request).run world deadline scene).trace)
    (hUnfinished : .rollback ∉ operations
      ((approach gate access request).run world deadline scene).trace) (handle : Handle) :
    DroppedOpen gate.tenantSetting holds handle
      ((approach gate access request).run world deadline scene).trace := by
  have hRun := run_approach world deadline gate access request scene
  generalize (approach gate access request).run world deadline scene = outcome
    at hDropped hBegun hUnfinished hRun ⊢
  obtain ⟨ending, after, trace⟩ := outcome
  dsimp only at hDropped hBegun hUnfinished hRun ⊢
  cases hRun with
  | dropped _ hEarlier => exact (begin_not_mem_of_preliminary hEarlier _ hBegun).elim
  | answered => cases hDropped
  | admitted earlier hEarlier admitted hAdmits ending trace hOpening =>
      cases hOpening with
      | beginDropped => simp [begin_not_mem_of_preliminary hEarlier] at hBegun
      | beginFailed => cases hDropped
      | rolledBack => cases hDropped
      | opened => cases hDropped
      | rollbackDropped => simp [operations, isOperation] at hUnfinished
      | bindDropped =>
          cases hDropped
          refine .binding admitted.tenant.id handle _ (by simp) ?_
          rw [operations_append, operations_of_preliminary hEarlier]
          rfl

theorem droppedOpen_of_serving {admitted : Admitted} {ending : Ending Answer} {holds : List Hold}
    {last : Scene σ} {rest : List Entry}
    (h : ((approach gate access request).run world deadline scene).ending =
      .finished (.ok admitted))
    (hServing : Serving admitted.tenant.id (handling world deadline handler request
      admitted.context ((approach gate access request).run world deadline scene).scene)
      ending last rest)
    (hDropped : ending = .dropped holds)
    (hUnfinished : ∀ call ∈ operations rest, call ≠ .commit ∧ call ≠ .rollback) :
    DroppedOpen gate.tenantSetting holds last.handle
      (((approach gate access request).run world deadline scene).trace ++ rest) := by
  obtain ⟨hWork, hSlot, -⟩ := handling_works world deadline handler request
    admitted.context ((approach gate access request).run world deadline scene).scene
  have hOperations := operations_of_admitted h
  obtain ⟨-, earlier, hEarlier, hTrace⟩ := approach_admitted h
  generalize handling world deadline handler request admitted.context
    ((approach gate access request).run world deadline scene).scene = handled
    at hServing hWork hSlot
  have hBound (name value : String) : .dropped (.bind name value) ∉
      ((approach gate access request).run world deadline scene).trace ++ handled.trace := by
    intro hMem
    rw [hTrace, List.append_assoc, List.mem_append, List.mem_append] at hMem
    rcases hMem with hMem | hMem | hMem
    · exact hEarlier _ (mem_callsOf_of_dropped hMem)
    · simp at hMem
    · exact hWork _ (mem_callsOf_of_dropped hMem)
  cases hServing with
  | handlerDropped =>
      cases hDropped
      refine .bound admitted.tenant.id _ _ (operations handled.trace) hSlot hBound ?_
        (isStatement_of_work hWork)
      rw [operations_append, hOperations]
      rfl
  | takeDropped result hResult last hScene =>
      cases hDropped
      refine .bound admitted.tenant.id _ _ (operations handled.trace) (hScene ▸ hSlot) ?_ ?_
        (isStatement_of_work hWork)
      · intro name value
        rw [← List.append_assoc, List.mem_append]
        simp [hBound]
      · rw [operations_append, operations_append, hOperations]
        simp [operations, isOperation]
  | closed result hResult last hClosed ending rest hFinishing =>
      have hFinal : finalCall result ∈
          operations (handled.trace ++ .answered .untilFree () :: rest) := by
        rw [operations_append, List.mem_append]
        refine .inr ?_
        change finalCall result ∈ operations rest
        rw [operations_of_finishing hFinishing]
        exact List.mem_singleton_self _
      obtain ⟨hCommit, hRollback⟩ := hUnfinished _ hFinal
      exact ((finalCall_eq result).elim hCommit hRollback).elim

theorem droppedOpen_of_apply {holds : List Hold}
    (hDropped : ((apply gate access handler request).run world deadline scene).ending =
      .dropped holds)
    (hBegun : .answered .begin (.ok ()) ∈
      ((apply gate access handler request).run world deadline scene).trace)
    (hUnfinished : ∀ call ∈ operations
      ((apply gate access handler request).run world deadline scene).trace,
      call ≠ .commit ∧ call ≠ .rollback) :
    DroppedOpen gate.tenantSetting holds
      ((apply gate access handler request).run world deadline scene).scene.handle
      ((apply gate access handler request).run world deadline scene).trace := by
  cases hApproach : ((approach gate access request).run world deadline scene).ending with
  | dropped approachHolds =>
      rw [run_apply_of_dropped hApproach] at hDropped hBegun hUnfinished ⊢
      cases hDropped
      exact droppedOpen_of_approach hApproach hBegun (fun h => (hUnfinished _ h).2 rfl) _
  | finished admission =>
      cases admission with
      | error answer =>
          rw [run_apply_of_answered hApproach] at hDropped
          cases hDropped
      | ok admitted =>
          obtain ⟨ending, rest, hEnding, hTrace, hServing⟩ :=
            run_apply_of_admitted hApproach handler
          rw [hTrace] at hUnfinished ⊢
          rw [hDropped] at hEnding
          have hServed : ending = .dropped holds := by
            cases ending with
            | finished answer => cases hEnding
            | dropped held =>
                cases hEnding
                rfl
          refine droppedOpen_of_serving hApproach hServing hServed fun call hCall => ?_
          exact hUnfinished call (by simp [hCall])

/-- A handler cannot end the transaction by statements of its own. -/
theorem not_final_of_statements {statements : List Call}
    (h : ∀ call ∈ statements, IsStatement call) :
    .commit ∉ statements ∧ .rollback ∉ statements :=
  ⟨fun hMem => h _ hMem, fun hMem => h _ hMem⟩

/-- A request is dropped while its transaction is open: it was begun, and neither committed nor
rolled back. Then it is never committed. It is rolled back, exactly once, if there is a runtime and
the request was not just binding it. A transaction that is being bound is let go instead. -/
theorem dropped_rolled_back_iff (runtime : Bool) {holds : List Hold}
    (hDropped : ((apply gate access handler request).run world deadline scene).ending =
      .dropped holds)
    (hBegun : .answered .begin (.ok ()) ∈
      ((apply gate access handler request).run world deadline scene).trace)
    (hUnfinished : ∀ call ∈ operations
      ((apply gate access handler request).run world deadline scene).trace,
      call ≠ .commit ∧ call ≠ .rollback)
    (hFree : (world .untilFree
      ((apply gate access handler request).run world deadline scene).scene.world).1 ≠ .never) :
    let dropped := (apply gate access handler request).run world deadline scene
    let whole := ((apply gate access handler request).runAndClear world deadline runtime scene).2.2
    .commit ∉ operations whole ∧
      ((operations whole).count .rollback = 1 ↔
        runtime = true ∧ ∀ name value, .dropped (.bind name value) ∉ dropped.trace) ∧
      ∀ name value, .dropped (.bind name value) ∈ dropped.trace →
        operations whole = [.begin, .bind name value, .letGo] := by
  have hOpen := droppedOpen_of_apply hDropped hBegun hUnfinished
  dsimp only
  rw [Program.runAndClear_of_dropped hDropped, operations_append]
  generalize (apply gate access handler request).run world deadline scene = outcome
    at hFree hOpen ⊢
  obtain ⟨ending, last, trace⟩ := outcome
  dsimp only at hFree hOpen ⊢
  cases hOpen with
  | binding tenant handle trace hBinding hOperations =>
      rw [operations_clear_transaction, hOperations]
      refine ⟨by simp, ?_, ?_⟩
      · have hNone : ¬ ∀ name value, .dropped (.bind name value) ∉ trace :=
          fun h => h _ _ hBinding
        simp [hNone]
      · intro name value hMem
        have hCall : .bind name value ∈ operations trace :=
          List.mem_filter.mpr ⟨mem_callsOf_of_dropped hMem, rfl⟩
        rw [hOperations] at hCall
        obtain ⟨rfl, rfl⟩ : name = gate.tenantSetting ∧ value = tenant := by simpa using hCall
        rfl
  | bound tenant handle trace statements hSlot hBound hOperations hStatements =>
      obtain ⟨hCommit, hRollback⟩ := not_final_of_statements hStatements
      obtain ⟨hClearedCommit, hCleared⟩ := clear_rollback_count runtime tenant hSlot hFree
      have hNone : statements.count .rollback = 0 := List.count_eq_zero.mpr hRollback
      rw [hOperations]
      refine ⟨?_, ?_, fun name value hMem => (hBound name value hMem).elim⟩
      · simp [hCommit, hClearedCommit]
      · cases runtime <;> simp [List.count_append, hNone, hCleared, hBound]

/-- A request that runs out of time while its handler waits. -/
theorem waiting_handler_rolled_back :
    let program := apply sampleGate .everyone (sampleHandler (.ofSeconds 60)) sampleRequest
    let dropped := program.run (sampleWorld .zero) (some (.ofSeconds 30)) (.fresh ())
    let whole :=
      (program.runAndClear (sampleWorld .zero) (some (.ofSeconds 30)) true (.fresh ())).2.2
    dropped.ending = .dropped [.rollback "t1"] ∧ .answered .begin (.ok ()) ∈ dropped.trace ∧
      operations dropped.trace = [.begin, .bind "app.tenant" "t1", .execute "INSERT"] ∧
      (sampleWorld .zero .untilFree dropped.scene.world).1 ≠ .never ∧
      .commit ∉ operations whole ∧
      ((operations whole).count .rollback = 1 ↔
        ∀ name value, .dropped (.bind name value) ∉ dropped.trace) ∧
      operations whole = [.begin, .bind "app.tenant" "t1", .execute "INSERT", .rollback] := by
  have hDropped : ((apply sampleGate .everyone (sampleHandler (.ofSeconds 60)) sampleRequest).run
      (sampleWorld .zero) (some (.ofSeconds 30)) (.fresh ())).ending =
      .dropped [.rollback "t1"] := by
    cbv
  have hBegun : .answered .begin (.ok ()) ∈
      ((apply sampleGate .everyone (sampleHandler (.ofSeconds 60)) sampleRequest).run
        (sampleWorld .zero) (some (.ofSeconds 30)) (.fresh ())).trace :=
    List.mem_of_getElem? (i := 2) (by cbv)
  have hOperations : operations
      ((apply sampleGate .everyone (sampleHandler (.ofSeconds 60)) sampleRequest).run
        (sampleWorld .zero) (some (.ofSeconds 30)) (.fresh ())).trace =
      [.begin, .bind "app.tenant" "t1", .execute "INSERT"] := by
    cbv
  have hFree : (sampleWorld .zero .untilFree
      ((apply sampleGate .everyone (sampleHandler (.ofSeconds 60)) sampleRequest).run
        (sampleWorld .zero) (some (.ofSeconds 30)) (.fresh ())).scene.world).1 ≠ .never := by
    simp [sampleWorld, Reply.now]
  obtain ⟨hCommit, hRollback, -⟩ := dropped_rolled_back_iff true hDropped hBegun
    (by rw [hOperations]; simp) hFree
  exact ⟨hDropped, hBegun, hOperations, hFree, hCommit, by simpa using hRollback, by cbv⟩

/-- A request that runs out of time while its transaction is being bound. There is a runtime, and
nobody else works on the transaction, but it is not rolled back. -/
theorem pending_binding_not_rolled_back :
    let program := apply sampleGate .everyone (sampleHandler .zero) sampleRequest
    let dropped := program.run (sampleWorld (.ofSeconds 60)) (some (.ofSeconds 30)) (.fresh ())
    let whole :=
      (program.runAndClear (sampleWorld (.ofSeconds 60)) (some (.ofSeconds 30)) true
        (.fresh ())).2.2
    dropped.ending = .dropped [.transaction] ∧ .answered .begin (.ok ()) ∈ dropped.trace ∧
      operations dropped.trace = [.begin, .bind "app.tenant" "t1"] ∧
      operations whole = [.begin, .bind "app.tenant" "t1", .letGo] :=
  ⟨by cbv, List.mem_of_getElem? (i := 2) (by cbv), by cbv, by cbv⟩

end Pipeline

end Gatehouse
