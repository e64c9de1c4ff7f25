import Gatehouse.Pipeline.Stages
import Gatehouse.Proofs.Execution

/-! The isolation stage cut in three: what opens the transaction, the handler, and what closes the
transaction after it. Every way in which the first and the last part can go is listed once, with
all that can be seen of it. -/
namespace Gatehouse

variable {σ : Type} {world : World σ} {deadline : Option Duration}

/-! ## Rolling back -/

/-- What is reported of a rollback that was answered. -/
def rollbackEvents (cause : String) : Except Database.Error Unit → List Event
  | .ok () => []
  | .error error => [.error "rollback failed" [("error", error.message), ("cause", cause)]]

/-- A rollback is asked for, and it is noted if it fails. -/
theorem Program.run_rollBack (cause : String) (scene : Scene σ) :
    (Program.rollBack cause).run world deadline scene =
      match scene.ask world deadline .rollback with
      | .ok (reply, after) =>
        ⟨.finished (), after, .answered .rollback reply :: (rollbackEvents cause reply).map .logged⟩
      | .error after => ⟨.dropped [], after, [.dropped .rollback]⟩ := by
  change (Program.ask .rollback [] _).run world deadline scene = _
  rw [Program.run_ask]
  cases scene.ask world deadline .rollback with
  | error after => rfl
  | ok result =>
      obtain ⟨reply, after⟩ := result
      cases reply <;> rfl

/-! ## Locking and taking the transaction -/

/-- The handle after its transaction was taken out. -/
def Handle.emptied (handle : Handle) : Handle :=
  { handle with slot := handle.slot.take.2 }

/-- The transaction is taken out once no clone uses it. -/
theorem Program.run_takeTransaction (scene : Scene σ) :
    Program.takeTransaction.run world deadline scene =
      match scene.ask world deadline .untilFree with
      | .ok (_, after) =>
        ⟨.finished after.handle.slot.content, { after with handle := after.handle.emptied },
          [.answered .untilFree ()]⟩
      | .error after => ⟨.dropped [], after, [.dropped .untilFree]⟩ := by
  change (Program.ask .untilFree [] _).run world deadline scene = _
  rw [Program.run_ask]
  cases scene.ask world deadline .untilFree <;> rfl

/-- Waiting for the lock of a transaction changes nothing. -/
theorem Program.run_lockTransaction (scene : Scene σ) :
    Program.lockTransaction.run world deadline scene =
      match scene.ask world deadline .untilFree with
      | .ok (_, after) =>
        ⟨.finished (if after.handle.slot.isOpen then .ok () else .error .finalized), after,
          [.answered .untilFree ()]⟩
      | .error after => ⟨.dropped [], after, [.dropped .untilFree]⟩ := by
  change (Program.ask .untilFree [] _).run world deadline scene = _
  rw [Program.run_ask]
  cases scene.ask world deadline .untilFree <;> rfl

namespace Pipeline

/-! ## Opening -/

/-- Begins a transaction and binds it to a tenant, or answers the request. -/
def opening (setting tenant : String) : Program (Except Answer Unit) :=
  .ask .begin [] fun
  | .error error =>
    .log (failureEvent "begin transaction failed" tenant error)
      (.done (.error (Answer.refuse .internal)))
  | .ok () => .ask (.bind setting tenant) [.transaction] fun
    | .error error =>
      .log (failureEvent "binding tenant to transaction failed" tenant error)
        ((Program.rollBack "bind_failed").bind fun _ => .done (.error (Answer.refuse .internal)))
    | .ok () => .done (.ok ())

/-- All the ways in which opening a transaction can go. -/
inductive Opening (setting tenant : String) : Ending (Except Answer Unit) → List Entry → Prop
  | beginDropped : Opening setting tenant (.dropped []) [.dropped .begin]
  | beginFailed (error : Database.Error) :
      Opening setting tenant (.finished (.error (Answer.refuse .internal)))
        [.answered .begin (.error error),
          .logged (failureEvent "begin transaction failed" tenant error)]
  | bindDropped :
      Opening setting tenant (.dropped [.transaction])
        [.answered .begin (.ok ()), .dropped (.bind setting tenant)]
  | rollbackDropped (error : Database.Error) :
      Opening setting tenant (.dropped [])
        [.answered .begin (.ok ()), .answered (.bind setting tenant) (.error error),
          .logged (failureEvent "binding tenant to transaction failed" tenant error),
          .dropped .rollback]
  | rolledBack (error : Database.Error) (reply : Except Database.Error Unit) :
      Opening setting tenant (.finished (.error (Answer.refuse .internal)))
        (.answered .begin (.ok ()) :: .answered (.bind setting tenant) (.error error) ::
          .logged (failureEvent "binding tenant to transaction failed" tenant error) ::
          .answered .rollback reply :: (rollbackEvents "bind_failed" reply).map .logged)
  | opened :
      Opening setting tenant (.finished (.ok ()))
        [.answered .begin (.ok ()), .answered (.bind setting tenant) (.ok ())]

variable (world deadline) in
/-- How a transaction is opened, with each way that this can end. -/
theorem run_opening (setting tenant : String) (scene : Scene σ) :
    Opening setting tenant ((opening setting tenant).run world deadline scene).ending
      ((opening setting tenant).run world deadline scene).trace := by
  rw [opening, Program.run_ask]
  cases scene.ask world deadline .begin with
  | error after => exact .beginDropped
  | ok result =>
      obtain ⟨reply, began⟩ := result
      cases reply with
      | error error => exact .beginFailed error
      | ok value =>
          dsimp only
          rw [Program.run_ask]
          cases began.ask world deadline (.bind setting tenant) with
          | error after => exact .bindDropped
          | ok result =>
              obtain ⟨reply, bound⟩ := result
              cases reply with
              | ok value => exact .opened
              | error error =>
                  dsimp only
                  rw [Program.run, Program.run_bind, Program.run_rollBack]
                  cases bound.ask world deadline .rollback with
                  | error after => exact .rollbackDropped error
                  | ok result =>
                      simpa [Outcome.andThen, Outcome.behind, Program.run] using
                        Opening.rolledBack error result.1

/-- The statements of the opening, and the rollback if the binding fails. -/
theorem opening_calls {setting tenant : String} {ending : Ending (Except Answer Unit)}
    {trace : List Entry} (h : Opening setting tenant ending trace) (call : Call)
    (hCall : call ∈ callsOf trace) :
    call = .begin ∨ call = .bind setting tenant ∨ call = .rollback := by
  cases h <;> simp at hCall <;> grind

/-! ## Closing -/

/-- The call that finishes the transaction of a handler that has ended like this. -/
def finalCall : Answer → Call
  | .ok response => if response.status < 400 then .commit else .rollback
  | .error _ => .rollback

theorem finalCall_eq (result : Answer) :
    finalCall result = .commit ∨ finalCall result = .rollback := by
  cases result with
  | error panic => exact .inr rfl
  | ok response =>
      rw [finalCall]
      split
      · exact .inl rfl
      · exact .inr rfl

/-- What a rollback is reported to be for. -/
def finalCause : Answer → String
  | .ok _ => "error_status"
  | .error _ => "panic"

/-- Takes the transaction out of the slot and finishes it. -/
def closing (tenant : String) (result : Answer) : Program Answer :=
  (Program.takeTransaction.holding (.rollback tenant)).bind fun
  | some () => finish tenant result
  | none => .log (finishedElsewhereEvent tenant) (.done (Answer.refuse .internal))

/-- All the ways in which finishing a transaction can go. -/
inductive Finishing (tenant : String) (result : Answer) : Ending Answer → List Entry → Prop
  | dropped : Finishing tenant result (.dropped []) [.dropped (finalCall result)]
  | rolledBack (reply : Except Database.Error Unit) (h : finalCall result = .rollback) :
      Finishing tenant result (.finished result)
        (.answered .rollback reply :: (rollbackEvents (finalCause result) reply).map .logged)
  | committed (h : finalCall result = .commit) :
      Finishing tenant result (.finished result) [.answered .commit (.ok ())]
  | commitFailed (error : Database.Error) (h : finalCall result = .commit) :
      Finishing tenant result (.finished (Answer.refuse .internal))
        [.answered .commit (.error error), .logged (failureEvent "commit failed" tenant error)]

/-- A transaction is finished by one call. -/
theorem callsOf_finishing {tenant : String} {result : Answer} {ending : Ending Answer}
    {trace : List Entry} (h : Finishing tenant result ending trace) :
    callsOf trace = [finalCall result] := by
  cases h with
  | dropped => rfl
  | rolledBack reply hFinal => simp [hFinal]
  | committed hFinal => simp [hFinal]
  | commitFailed error hFinal => simp [hFinal]

private theorem run_rollBack_done (tenant : String) {result : Answer}
    (h : finalCall result = .rollback) (scene : Scene σ) :
    let outcome :=
      ((Program.rollBack (finalCause result)).bind fun _ => .done result).run world deadline scene
    outcome.scene.handle = scene.handle ∧
      Finishing tenant result outcome.ending outcome.trace := by
  dsimp only
  rw [Program.run_bind, Program.run_rollBack]
  cases hAsk : scene.ask world deadline .rollback with
  | error after =>
      refine ⟨Scene.handle_of_ask_error hAsk, ?_⟩
      have hDropped : Finishing tenant result (.dropped []) [.dropped (finalCall result)] :=
        .dropped
      rwa [h] at hDropped
  | ok reply =>
      refine ⟨Scene.handle_of_ask_ok hAsk, ?_⟩
      simpa [Outcome.andThen, Outcome.behind, Program.run] using .rolledBack reply.1 h

private theorem finish_eq_ask (tenant : String) {response : Http.Response}
    (h : response.status < 400) :
    finish tenant (.ok response) = .ask .commit [] fun
      | .ok () => .done (.ok response)
      | .error error =>
        .log (failureEvent "commit failed" tenant error) (.done (Answer.refuse .internal)) := by
  rw [finish, if_neg (by omega)]
  rfl

variable (world deadline) in
/-- How a transaction is finished, with each way that this can end. -/
theorem run_finish (tenant : String) (result : Answer) (scene : Scene σ) :
    let outcome := (finish tenant result).run world deadline scene
    outcome.scene.handle = scene.handle ∧
      Finishing tenant result outcome.ending outcome.trace := by
  cases result with
  | error panic =>
      have hFinal : finalCall (.error panic) = .rollback := rfl
      exact run_rollBack_done tenant hFinal scene
  | ok response =>
      by_cases hStatus : response.status < 400
      · have hFinal : finalCall (.ok response) = .commit := if_pos hStatus
        dsimp only
        rw [finish_eq_ask tenant hStatus, Program.run_ask]
        cases hAsk : scene.ask world deadline .commit with
        | error after =>
            refine ⟨Scene.handle_of_ask_error hAsk, ?_⟩
            have hDropped : Finishing tenant (.ok response) (.dropped [])
              [.dropped (finalCall (.ok response))] := .dropped
            rwa [hFinal] at hDropped
        | ok reply =>
            obtain ⟨reply, after⟩ := reply
            cases reply with
            | ok value => exact ⟨Scene.handle_of_ask_ok hAsk, .committed hFinal⟩
            | error error => exact ⟨Scene.handle_of_ask_ok hAsk, .commitFailed error hFinal⟩
      · have hFinal : finalCall (.ok response) = .rollback := if_neg hStatus
        rw [finish, if_pos (by omega)]
        exact run_rollBack_done tenant hFinal scene

variable (world deadline) in
/-- An open transaction is taken out and finished, or the request is dropped while somebody else
still works on it. -/
theorem run_closing (tenant : String) (result : Answer) (scene : Scene σ)
    (hOpen : scene.handle.slot = .hold ()) :
    let outcome := (closing tenant result).run world deadline scene
    (outcome.ending = .dropped [.rollback tenant] ∧ outcome.trace = [.dropped .untilFree] ∧
      outcome.scene.handle = scene.handle) ∨
    (outcome.scene.handle.slot.isOpen = false ∧ ∃ rest,
      outcome.trace = .answered .untilFree () :: rest ∧
        Finishing tenant result outcome.ending rest) := by
  dsimp only
  rw [closing, Program.run_bind, Program.run_holding, Program.run_takeTransaction]
  cases hAsk : scene.ask world deadline .untilFree with
  | error after => exact .inl ⟨rfl, rfl, Scene.handle_of_ask_error hAsk⟩
  | ok reply =>
      obtain ⟨reply, after⟩ := reply
      have hContent : after.handle.slot.content = some () := by
        rw [Scene.handle_of_ask_ok hAsk, hOpen]
        rfl
      obtain ⟨hHandle, hFinishing⟩ := run_finish world deadline tenant result
        { after with handle := after.handle.emptied }
      refine .inr ?_
      simp only [Outcome.holding, Outcome.andThen, hContent]
      refine ⟨?_, _, rfl, hFinishing⟩
      rw [Outcome.behind_scene, hHandle]
      rfl

/-! ## Handlers -/

/-- What a handler may call. -/
def IsWork : Call → Prop
  | .untilFree | .execute _ | .readSetting _ | .keep _ | .pause _ => True
  | _ => False

/-- A handler only works on the transaction and has nothing in hand. Of its handle it keeps whatever
giving a clone away keeps. -/
theorem works_toProgram {α : Type} {sound : Handle → Prop}
    (hKept : ∀ handle, sound handle → sound { handle with isKept := true })
    (handling : Handling α) :
    handling.toProgram.Obeys (fun call holds => IsWork call ∧ holds = []) sound := by
  have hLock : Program.lockTransaction.Obeys (fun call holds => IsWork call ∧ holds = []) sound :=
    ⟨⟨trivial, rfl⟩, fun _ handle hSound => ⟨hSound, trivial⟩⟩
  induction handling with
  | done value => trivial
  | log event rest ih => exact ih
  | execute statement next ih =>
      rw [Handling.toProgram]
      refine hLock.bind fun result => ?_
      cases result with
      | error error => exact ih (.error error)
      | ok value => exact ⟨⟨trivial, rfl⟩, fun answer => ih answer⟩
  | readSetting name next ih =>
      rw [Handling.toProgram]
      refine hLock.bind fun result => ?_
      cases result with
      | error error => exact ih (.error (.transaction error))
      | ok value =>
          refine ⟨⟨trivial, rfl⟩, fun answer => ?_⟩
          cases answer with
          | ok value => exact ih (.ok value)
          | error detail => exact ih (.error (.query detail))
  | keep tenant rest ih =>
      exact ⟨⟨trivial, rfl⟩, fun _ handle hSound => ⟨hKept handle hSound, ih⟩⟩
  | pause duration rest ih => exact ⟨⟨trivial, rfl⟩, fun _ => ih⟩

/-- A handler leaves the transaction in the slot. -/
theorem obeys_toProgram {α : Type} (handling : Handling α) :
    handling.toProgram.Obeys (fun call holds => IsWork call ∧ holds = [])
      (fun handle => handle.slot = .hold ()) :=
  works_toProgram (fun _ hOpen => hOpen) handling

/-! ## The stage -/

/-- The stage opens a transaction, serves the request in it, and finishes it. -/
theorem isolate_eq (gate : Gate) {context : Context} {tenant : Tenant}
    (h : context.tenant = some tenant) (handler : Context → Handling Answer) :
    isolate gate context handler = (opening gate.tenantSetting tenant.id).bind fun
      | .error answer => .done answer
      | .ok () => serveBound tenant.id context handler := by
  rw [isolate, h]
  change Program.ask .begin [] _ = Program.ask .begin [] _
  congr 1
  funext began
  cases began with
  | error error => rfl
  | ok value =>
      change Program.ask (.bind _ _) [.transaction] _ = Program.ask (.bind _ _) [.transaction] _
      congr 1
      funext bound
      cases bound with
      | ok value => rfl
      | error error =>
          change Program.log _ _ = Program.log _ _
          congr 1
          rw [Program.bind_assoc]
          rfl

/-- The handler runs with the transaction in its context, which is held on to while it runs. -/
theorem serveBound_eq (tenant : String) (context : Context)
    (handler : Context → Handling Answer) :
    serveBound tenant context handler = .visit (fun _ => ⟨.hold (), false⟩) fun _ =>
      ((handler { context with transaction := some tenant }).toProgram.holding
        (.rollback tenant)).bind (closing tenant) := rfl

end Pipeline

end Gatehouse
