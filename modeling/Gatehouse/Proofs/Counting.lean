import Gatehouse.Proofs.QuotaHeaders
import Gatehouse.Surroundings.Counter

/-! Programs with a counter store in their surroundings. A program that has nothing counted runs as it
does without the store, which stays as it is. The stages of the service have a request counted once:
after its tenant is known, and before anything else. -/
namespace Gatehouse

open Surroundings

variable {σ τ α : Type} {world : World σ} {counter : Counter τ} {deadline : Option Duration}

/-- The scene with a counter store in it. -/
def Scene.beside (counts : τ) (scene : Scene σ) : Scene (σ × τ) :=
  ⟨(scene.world, counts), scene.handle, scene.elapsed⟩

def Outcome.beside (counts : τ) (outcome : Outcome σ α) : Outcome (σ × τ) α :=
  ⟨outcome.ending, outcome.scene.beside counts, outcome.trace⟩

/-- A call that counts nothing is answered as without the store. -/
theorem Scene.ask_countedBy {call : Call} (h : ¬ Pipeline.IsCount call) (scene : Scene σ)
    (counts : τ) :
    (scene.beside counts).ask (countedBy counter world) deadline call =
      match scene.ask world deadline call with
      | .ok (answer, after) => .ok (answer, after.beside counts)
      | .error after => .error (after.beside counts) := by
  have hWorld : countedBy counter world call (scene.beside counts).world =
      ((world call scene.world).1, (world call scene.world).2, counts) := by
    cases call <;> first | rfl | exact (h trivial).elim
  unfold Scene.ask
  rw [hWorld]
  cases world call scene.world with
  | mk reply state =>
      cases reply with
      | never => rfl
      | after delay value =>
          change (if endsInTime deadline scene.elapsed delay.nanoseconds then _ else _) = _
          dsimp only
          split <;> rfl

namespace Program

/-- A run in which nothing is counted is the same with a counter store beside it. -/
theorem run_countedBy {p : Program α} {scene : Scene σ}
    (h : Pipeline.Uncounted (p.run world deadline scene).trace) (counts : τ) :
    p.run (countedBy counter world) deadline (scene.beside counts) =
      (p.run world deadline scene).beside counts := by
  induction p generalizing scene with
  | done value => rfl
  | log event rest ih =>
      rw [run, run, ih h]
      rfl
  | visit change next ih =>
      rw [run, run]
      have hNext : Pipeline.Uncounted ((next scene.handle).run world deadline
          { scene with handle := change scene.handle }).trace := h
      exact ih scene.handle hNext
  | ask call holds next ih =>
      rw [run_ask] at h
      have hCall : ¬ Pipeline.IsCount call := by
        cases hAsk : scene.ask world deadline call with
        | error after =>
            rw [hAsk] at h
            exact h call (by simp)
        | ok result =>
            rw [hAsk] at h
            exact h call (by simp)
      rw [run_ask, run_ask, Scene.ask_countedBy hCall]
      cases hAsk : scene.ask world deadline call with
      | error after => rfl
      | ok result =>
          rw [hAsk] at h
          dsimp only
          rw [ih result.1 fun other hOther => h other (by simp [hOther])]
          rfl

end Program

/-! ## Programs that have nothing counted -/

/-- Whatever it is answered, the program has nothing counted. -/
def Program.CountsNobody (p : Program α) : Prop :=
  p.Obeys (fun call _ => ¬ Pipeline.IsCount call) fun _ => True

/-- A program that counts nobody does not do it in any run. -/
theorem Program.CountsNobody.uncounted {p : Program α} (h : p.CountsNobody) (world : World σ)
    (deadline : Option Duration) (scene : Scene σ) :
    Pipeline.Uncounted (p.run world deadline scene).trace := by
  obtain ⟨hCalls, -, -⟩ := h.run world deadline scene trivial
  exact fun call hCall => (hCalls call hCall).choose_spec

theorem countsNobody_rollBack (cause : String) : (Program.rollBack cause).CountsNobody := by
  refine Program.Obeys.bind (p := Program.call .rollback) ⟨id, fun _ => trivial⟩ fun reply => ?_
  cases reply <;> trivial

theorem countsNobody_takeTransaction : Program.takeTransaction.CountsNobody :=
  ⟨id, fun _ _ _ => ⟨trivial, trivial⟩⟩

theorem countsNobody_letGoUnlessKept : Program.letGoUnlessKept.CountsNobody := by
  refine fun handle _ => ⟨trivial, ?_⟩
  change Program.Obeys _ _ (if _ then _ else _)
  split
  · exact fun _ _ => ⟨trivial, id, fun _ => trivial⟩
  · trivial

/-- What is done for a program that was dropped counts nobody. -/
theorem Hold.countsNobody_clear (runtime : Bool) (hold : Hold) :
    (hold.clear runtime).CountsNobody := by
  cases hold with
  | transaction => exact ⟨id, fun _ => trivial⟩
  | rollback tenant =>
      cases runtime with
      | false => exact countsNobody_letGoUnlessKept
      | true =>
          refine Program.Obeys.bind countsNobody_takeTransaction fun taken => ?_
          cases taken with
          | none => trivial
          | some value => exact countsNobody_rollBack "cancelled"

/-- A handler has no means to count. -/
theorem countsNobody_toProgram (handling : Handling α) : handling.toProgram.CountsNobody := by
  refine (Pipeline.works_toProgram (fun _ _ => trivial) handling).mono fun call _ hWork => ?_
  cases call <;> first | exact id | exact hWork.1.elim

/-- Clearing away has nothing counted. -/
theorem Hold.countsNobody_clearAll (runtime : Bool) (holds : List Hold) :
    (Hold.clearAll runtime holds).CountsNobody := by
  induction holds with
  | nil => trivial
  | cons hold rest ih => exact Program.Obeys.bind (hold.countsNobody_clear runtime) fun _ => ih

/-! ## What is left of the counts -/

def isCount : Call → Bool
  | .count _ _ _ => true
  | _ => false

/-- The calls of a run by which something was counted. -/
def countsOf (trace : List Entry) : List Call :=
  (callsOf trace).filter isCount

@[simp] theorem countsOf_append (first second : List Entry) :
    countsOf (first ++ second) = countsOf first ++ countsOf second := by
  simp [countsOf]

theorem countsOf_of_uncounted {trace : List Entry} (h : Pipeline.Uncounted trace) :
    countsOf trace = [] := by
  refine List.filter_eq_nil_iff.mpr fun call hCall => ?_
  have hNot := h call hCall
  cases call <;> first | exact Bool.false_ne_true | exact (hNot trivial).elim

/-- The counts after these calls. -/
def tally (counter : Counter τ) : List Call → τ → τ
  | [], counts => counts
  | .count key limit _ :: rest, counts => tally counter rest (counter key limit counts).2
  | _ :: rest, counts => tally counter rest counts

/-- Counts add up in the order in which they are asked for. -/
theorem tally_append (first second : List Call) (counts : τ) :
    tally counter (first ++ second) counts = tally counter second (tally counter first counts) := by
  induction first generalizing counts with
  | nil => rfl
  | cons call rest ih => cases call <;> exact ih _

variable (world counter) in
/-- A counter that stands apart changes at counts only. -/
theorem world_countedBy (call : Call) (state : σ) (counts : τ) :
    (countedBy counter world call (state, counts)).2.2 =
      tally counter ([call].filter isCount) counts := by
  cases call <;> rfl

namespace Program

/-- The counts change by what is counted. -/
theorem run_tally (p : Program α) (scene : Scene (σ × τ)) :
    let outcome := p.run (countedBy counter world) deadline scene
    outcome.scene.world.2 = tally counter (countsOf outcome.trace) scene.world.2 := by
  induction p generalizing scene with
  | done value => rfl
  | log event rest ih => exact ih scene
  | visit change next ih => exact ih scene.handle { scene with handle := change scene.handle }
  | ask call holds next ih =>
      have hCall := world_countedBy world counter call scene.world.1 scene.world.2
      dsimp only
      rw [run_ask]
      cases hAsk : scene.ask (countedBy counter world) deadline call with
      | error after =>
          dsimp only
          rw [Scene.world_of_ask_error hAsk]
          exact hCall
      | ok result =>
          obtain ⟨delay, hWorld⟩ := Scene.world_of_ask_ok hAsk
          rw [hWorld] at hCall
          have hSplit : countsOf ([.answered call result.1] ++
              ((next result.1).run (countedBy counter world) deadline result.2).trace) =
              [call].filter isCount ++ countsOf
                ((next result.1).run (countedBy counter world) deadline result.2).trace :=
            countsOf_append ..
          dsimp only [Outcome.behind]
          rw [hSplit, tally_append, ← hCall]
          exact ih result.1 result.2

/-- What is cleared after a run does not change the counts. -/
theorem runAndClear_tally (runtime : Bool) (p : Program α) (scene : Scene (σ × τ)) :
    let cleared := p.runAndClear (countedBy counter world) deadline runtime scene
    cleared.2.1.world.2 = tally counter (countsOf cleared.2.2) scene.world.2 := by
  unfold runAndClear
  dsimp only
  split
  · exact run_tally p scene
  · rw [countsOf_append, tally_append]
    exact (run_tally _ _).trans (congrArg _ (run_tally p scene))

end Program

end Gatehouse
