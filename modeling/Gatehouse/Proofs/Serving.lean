import Gatehouse.Proofs.Admission

/-! Runs of all stages. A request that was admitted to a bound transaction is served: its handler
runs, and the transaction is taken out and finished. A request that was not never sees its
handler. -/
namespace Gatehouse

variable {σ : Type} {world : World σ} {deadline : Option Duration}

namespace Pipeline

/-- The run of a handler from a scene on, with a fresh handle to the transaction. -/
def handling (world : World σ) (deadline : Option Duration) (handler : Handler)
    (request : Http.Request) (context : Context) (scene : Scene σ) : Outcome σ Answer :=
  (handler request context).toProgram.run world deadline
    { scene with handle := ⟨.hold (), false⟩ }

/-- A handler only works on the transaction of its request, which stays where it is. If the handler
is dropped, it has nothing in hand itself. -/
theorem handling_works (world : World σ) (deadline : Option Duration) (handler : Handler)
    (request : Http.Request) (context : Context) (scene : Scene σ) :
    let outcome := handling world deadline handler request context scene
    (∀ call ∈ callsOf outcome.trace, IsWork call) ∧ outcome.scene.handle.slot = .hold () ∧
      ∀ holds, outcome.ending = .dropped holds → holds = [] := by
  obtain ⟨hCalls, hSlot, hHolds⟩ := (obeys_toProgram (handler request context)).run world deadline
    { scene with handle := ⟨.hold (), false⟩ } rfl
  exact ⟨fun call hCall => (hCalls call hCall).choose_spec.1, hSlot,
    fun holds hDropped => (hHolds holds hDropped).choose_spec.2⟩

/-- All the ways in which a request with a bound transaction can be served, given the run of its
handler. -/
inductive Serving (tenant : String) (handled : Outcome σ Answer) :
    Ending Answer → Scene σ → List Entry → Prop
  | handlerDropped (h : handled.ending = .dropped []) :
      Serving tenant handled (.dropped [.rollback tenant]) handled.scene handled.trace
  | takeDropped (result : Answer) (h : handled.ending = .finished result) (scene : Scene σ)
      (hScene : scene.handle = handled.scene.handle) :
      Serving tenant handled (.dropped [.rollback tenant]) scene
        (handled.trace ++ [.dropped .untilFree])
  | closed (result : Answer) (h : handled.ending = .finished result) (scene : Scene σ)
      (hClosed : scene.handle.slot.isOpen = false) (ending : Ending Answer) (rest : List Entry)
      (hFinishing : Finishing tenant result ending rest) :
      Serving tenant handled ending scene (handled.trace ++ .answered .untilFree () :: rest)

variable (world deadline) in
/-- The handler runs in the transaction, which is finished after it; a run that is dropped holds on
to it. -/
theorem run_serveBound (tenant : String) (context : Context) (handler : Handler)
    (request : Http.Request) (scene : Scene σ) :
    let handled := handling world deadline handler request
      { context with transaction := some tenant } scene
    let outcome := (serveBound tenant context (handler request)).run world deadline scene
    Serving tenant handled outcome.ending outcome.scene outcome.trace := by
  obtain ⟨-, hSlot, hHolds⟩ := handling_works world deadline handler request
    { context with transaction := some tenant } scene
  dsimp only
  rw [serveBound_eq, Program.run, Program.run_bind, Program.run_holding]
  change Serving _ _
    (((handling world deadline handler request _ scene).holding _).andThen _).ending
    (((handling world deadline handler request _ scene).holding _).andThen _).scene
    (((handling world deadline handler request _ scene).holding _).andThen _).trace
  generalize handling world deadline handler request
    { context with transaction := some tenant } scene = handled at hSlot hHolds ⊢
  cases hEnding : handled.ending with
  | dropped holds =>
      obtain rfl := hHolds holds hEnding
      rw [Outcome.holding_of_dropped hEnding]
      exact .handlerDropped hEnding
  | finished result =>
      rw [Outcome.holding_of_finished hEnding, Outcome.andThen_of_finished hEnding]
      rcases run_closing world deadline tenant result handled.scene hSlot with
        ⟨hEnd, hTrace, hHandle⟩ | ⟨hClosed, rest, hTrace, hFinishing⟩
      · rw [Outcome.behind_ending, Outcome.behind_scene, Outcome.behind_trace, hEnd, hTrace]
        exact .takeDropped result hEnding _ hHandle
      · rw [Outcome.behind_ending, Outcome.behind_scene, Outcome.behind_trace, hTrace]
        exact .closed result hEnding _ hClosed _ rest hFinishing

/-- A call that takes the transaction out or finishes it. -/
def IsClosing (call : Call) : Prop :=
  call = .untilFree ∨ call = .commit ∨ call = .rollback

/-- After its handler, a request only has its transaction closed. -/
theorem Serving.trace_eq {tenant : String} {handled : Outcome σ Answer} {ending : Ending Answer}
    {scene : Scene σ} {trace : List Entry} (h : Serving tenant handled ending scene trace) :
    ∃ after, trace = handled.trace ++ after ∧ ∀ call ∈ callsOf after, IsClosing call := by
  cases h with
  | handlerDropped => exact ⟨[], by simp, by simp⟩
  | takeDropped => exact ⟨_, rfl, by simp [IsClosing]⟩
  | closed result _ _ _ _ rest hFinishing =>
      refine ⟨_, rfl, ?_⟩
      intro call hCall
      rw [callsOf_answered, callsOf_finishing hFinishing] at hCall
      rcases List.mem_cons.mp hCall with rfl | hCall
      · exact .inl rfl
      · obtain rfl := List.mem_singleton.mp hCall
        exact .inr (finalCall_eq result)

/-! ## Requests that are turned away, and requests that are served -/

variable {gate : Gate} {access : Access} {request : Http.Request} {scene : Scene σ}

theorem run_apply_of_dropped {holds : List Hold}
    (h : ((approach gate access request).run world deadline scene).ending = .dropped holds)
    (handler : Handler) :
    (apply gate access handler request).run world deadline scene =
      ⟨.dropped holds, ((approach gate access request).run world deadline scene).scene,
        ((approach gate access request).run world deadline scene).trace⟩ := by
  rw [apply_eq, Program.run_bind_of_dropped h]

/-- A request that is answered on its way does not get to the handler. -/
theorem run_apply_of_answered {answer : Answer}
    (h : ((approach gate access request).run world deadline scene).ending =
      .finished (.error answer)) (handler : Handler) :
    (apply gate access handler request).run world deadline scene =
      ⟨.finished answer, ((approach gate access request).run world deadline scene).scene,
        ((approach gate access request).run world deadline scene).trace⟩ := by
  rw [apply_eq, Program.run_bind_of_finished h]
  simp [Program.run, Outcome.behind]

/-- A request that is admitted is served from there, and its answer relayed. -/
theorem run_apply_of_admitted {admitted : Admitted}
    (h : ((approach gate access request).run world deadline scene).ending =
      .finished (.ok admitted)) (handler : Handler) :
    let before := (approach gate access request).run world deadline scene
    let outcome := (apply gate access handler request).run world deadline scene
    ∃ ending rest, outcome.ending = ending.map admitted.tell ∧
      outcome.trace = before.trace ++ rest ∧
      Serving admitted.tenant.id
        (handling world deadline handler request admitted.context before.scene)
        ending outcome.scene rest := by
  dsimp only
  rw [apply_eq, Program.run_bind_of_finished h]
  dsimp only
  rw [Program.run_map]
  have hServing := run_serveBound world deadline admitted.tenant.id
    ⟨some admitted.tenant, admitted.claims, none⟩ handler request
    ((approach gate access request).run world deadline scene).scene
  exact ⟨_, _, rfl, rfl, hServing⟩

end Pipeline

end Gatehouse
