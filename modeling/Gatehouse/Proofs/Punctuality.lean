import Gatehouse.Proofs.Execution

/-! Time in runs. Without a deadline, a run that starts later is the same run, later. A deadline does
not change a run that is over by then, and a run that comes to its end in spite of a deadline is over
by then. -/
namespace Gatehouse

variable {σ α : Type} {world : World σ}

/-- The scene with more time used up. -/
def Scene.later (nanoseconds : Nat) (scene : Scene σ) : Scene σ :=
  { scene with elapsed := scene.elapsed + nanoseconds }

@[simp] theorem Scene.later_world (nanoseconds : Nat) (scene : Scene σ) :
    (scene.later nanoseconds).world = scene.world := rfl

def Outcome.later (nanoseconds : Nat) (outcome : Outcome σ α) : Outcome σ α :=
  { outcome with scene := outcome.scene.later nanoseconds }

theorem Outcome.later_behind (nanoseconds : Nat) (before : List Entry) (outcome : Outcome σ α) :
    (outcome.behind before).later nanoseconds = (outcome.later nanoseconds).behind before := rfl

/-- Without a deadline it does not matter to a call when it is made. -/
theorem Scene.ask_later (nanoseconds : Nat) (call : Call) (scene : Scene σ) :
    (scene.later nanoseconds).ask world none call =
      match scene.ask world none call with
      | .ok (answer, after) => .ok (answer, after.later nanoseconds)
      | .error after => .error (after.later nanoseconds) := by
  unfold Scene.ask
  rw [Scene.later_world]
  cases world call scene.world with
  | mk reply state =>
      cases reply with
      | never => rfl
      | after delay value => simp [endsInTime, Scene.later, Nat.add_right_comm]

namespace Program

/-- Without a deadline it does not matter when a program runs. -/
theorem run_later (nanoseconds : Nat) (p : Program α) (scene : Scene σ) :
    p.run world none (scene.later nanoseconds) = (p.run world none scene).later nanoseconds := by
  induction p generalizing scene with
  | done value => rfl
  | log event rest ih =>
      rw [run, run, ih]
      rfl
  | visit change next ih =>
      rw [run, run]
      exact ih scene.handle { scene with handle := change scene.handle }
  | ask call holds next ih =>
      rw [run_ask, run_ask, Scene.ask_later]
      cases scene.ask world none call with
      | error after => rfl
      | ok result =>
          dsimp only
          rw [ih, Outcome.later_behind]

end Program

end Gatehouse
