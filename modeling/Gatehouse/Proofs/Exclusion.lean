import Gatehouse.Proofs.Isolation

/-! Who may use a transaction. The clones of a handle lock its slot, run statements under the lock,
let go of it and take the transaction out, in any order and as often as they like. Whatever they do,
the transaction is taken out once and while no guard is alive, and from then on the slot is empty
for everyone. -/
namespace Gatehouse.Database.Slot

variable {τ : Type} {content : τ}

/-! ## Runs -/

/-- What a clone did, and what came of it. -/
structure Deed (τ : Type) where
  clone : Nat
  action : Action
  effect : Effect τ

/-- The slot of a new handle after its clones have done these things, one after the other. -/
inductive Run (content : τ) : List (Deed τ) → Slot τ → Prop
  | fresh : Run content [] (hold content)
  | step {deeds : List (Deed τ)} {slot next : Slot τ} (deed : Deed τ)
      (earlier : Run content deeds slot)
      (last : slot.step deed.clone deed.action = some (deed.effect, next)) :
      Run content (deeds ++ [deed]) next

/-- The guards that are alive after a deed, given those that were alive before it. Each is known by
the clone that it was given to. -/
def Deed.guards (held : List Nat) (deed : Deed τ) : List Nat :=
  match deed.effect with
  | .locked => deed.clone :: held
  | .released => held.erase deed.clone
  | _ => held

/-- The guards that were given out and not let go of. -/
def guards (deeds : List (Deed τ)) : List Nat :=
  deeds.foldl Deed.guards []

def Deed.taking? (deed : Deed τ) : Option (Effect τ) :=
  match deed.action with
  | .take => some deed.effect
  | _ => none

/-- What came of the attempts to take the transaction out, in order. -/
def takings (deeds : List (Deed τ)) : List (Effect τ) :=
  deeds.filterMap Deed.taking?

/-- Somebody has tried to take the transaction out; the first to try gets it. -/
def isTaken (deeds : List (Deed τ)) : Bool :=
  !(takings deeds).isEmpty

/-- The last deed tells who has a guard now. -/
theorem guards_append (deeds : List (Deed τ)) (deed : Deed τ) :
    guards (deeds ++ [deed]) = deed.guards (guards deeds) := by
  simp [guards]

theorem takings_append (first second : List (Deed τ)) :
    takings (first ++ second) = takings first ++ takings second :=
  List.filterMap_append

theorem takings_singleton (deed : Deed τ) : takings [deed] = deed.taking?.toList := by
  unfold takings
  cases h : deed.taking? <;> simp [h]

/-! ## The two phases of a slot -/

/-- How a slot stands, given what was taken out and the guards that are alive: the transaction is
there and at most one clone has a guard, or it was taken out and no clone has one. -/
inductive Standing (content : τ) : List (Effect τ) → List Nat → Slot τ → Prop
  | full (holder : Option Nat) : Standing content [] holder.toList ⟨some content, holder⟩
  | taken (others : Nat) :
      Standing content (.taken content :: List.replicate others .nothing) [] empty

/-- All that can be done with a slot that is empty for good. -/
theorem step_empty {clone : Nat} {action : Action} {effect : Effect τ} {next : Slot τ}
    (h : empty.step clone action = some (effect, next)) :
    next = empty ∧
      (action = .lock ∧ effect = .finalized ∨ action = .take ∧ effect = .nothing) := by
  cases action with
  | lock =>
      cases h
      exact ⟨rfl, .inl ⟨rfl, rfl⟩⟩
  | execute statement => cases h
  | release => cases h
  | take =>
      cases h
      exact ⟨rfl, .inr ⟨rfl, rfl⟩⟩

/-- All that can be done with a slot that holds the transaction. -/
inductive Used (content : τ) (clone : Nat) : Option Nat → Action → Effect τ → Slot τ → Prop
  | locked : Used content clone none .lock .locked ⟨some content, some clone⟩
  | ran (statement : String) :
      Used content clone (some clone) (.execute statement) (.ran statement)
        ⟨some content, some clone⟩
  | released : Used content clone (some clone) .release .released ⟨some content, none⟩
  | taken : Used content clone none .take (.taken content) empty

/-- What a step does to a slot that is still full, with each way that it can be used. -/
theorem used_of_step {holder : Option Nat} {clone : Nat} {action : Action} {effect : Effect τ}
    {next : Slot τ} (h : step ⟨some content, holder⟩ clone action = some (effect, next)) :
    Used content clone holder action effect next := by
  cases action with
  | lock =>
      cases holder with
      | none =>
          cases h
          exact .locked
      | some other => cases h
  | execute statement =>
      rw [step] at h
      split at h
      · next hHolder =>
        cases hHolder
        cases h
        exact .ran statement
      · cases h
  | release =>
      rw [step] at h
      split at h
      · next hHolder =>
        cases hHolder
        cases h
        exact .released
      · cases h
  | take =>
      cases holder with
      | none =>
          cases h
          exact .taken
      | some other => cases h

/-- The first to take the transaction has it, and everyone after that gets nothing. -/
theorem Standing.takings_eq {took : List (Effect τ)} {held : List Nat} {slot : Slot τ}
    (h : Standing content took held slot) :
    took = [] ∨ ∃ others, took = .taken content :: List.replicate others .nothing := by
  cases h with
  | full holder => exact .inl rfl
  | taken others => exact .inr ⟨others, rfl⟩

/-- Nobody shares a guard. -/
theorem Standing.length_le {took : List (Effect τ)} {held : List Nat} {slot : Slot τ}
    (h : Standing content took held slot) : held.length ≤ 1 := by
  cases h with
  | full holder => cases holder <;> simp
  | taken others => simp

/-- A step leaves the slot standing as the deeds up to it say. -/
theorem Standing.step {took : List (Effect τ)} {held : List Nat} {slot next : Slot τ}
    (h : Standing content took held slot) (deed : Deed τ)
    (hStep : slot.step deed.clone deed.action = some (deed.effect, next)) :
    Standing content (took ++ deed.taking?.toList) (deed.guards held) next := by
  obtain ⟨clone, action, effect⟩ := deed
  cases h with
  | full holder =>
      cases used_of_step hStep with
      | locked => exact .full (some clone)
      | ran statement => exact .full (some clone)
      | released =>
          have hGone : Standing content [] [] (⟨some content, none⟩ : Slot τ) := .full none
          simpa [Deed.taking?, Deed.guards] using hGone
      | taken => exact .taken 0
  | taken others =>
      obtain ⟨rfl, ⟨rfl, rfl⟩ | ⟨rfl, rfl⟩⟩ := step_empty hStep
      · have hSame : Standing content (.taken content :: List.replicate others .nothing) []
            (empty : Slot τ) := .taken others
        simpa [Deed.taking?, Deed.guards] using hSame
      · have hMore : Standing content (.taken content :: List.replicate (others + 1) .nothing) []
            (empty : Slot τ) := .taken (others + 1)
        rwa [List.replicate_succ', ← List.cons_append] at hMore

/-- By induction over the deeds, the slot stands at every time as they say. -/
theorem Run.standing {deeds : List (Deed τ)} {slot : Slot τ} (h : Run content deeds slot) :
    Standing content (takings deeds) (guards deeds) slot := by
  induction h with
  | fresh => exact .full none
  | step deed earlier last ih =>
      rw [takings_append, takings_singleton, guards_append]
      exact ih.step deed last

/-- Every deed was done to a slot that the deeds before it had led to. -/
theorem Run.before {deeds : List (Deed τ)} {slot : Slot τ} (h : Run content deeds slot)
    {earlier later : List (Deed τ)} {deed : Deed τ} (hDeeds : deeds = earlier ++ deed :: later) :
    ∃ before after, Run content earlier before ∧
      before.step deed.clone deed.action = some (deed.effect, after) := by
  induction h generalizing later with
  | fresh => simp at hDeeds
  | step last before hStep ih =>
      rcases List.eq_nil_or_concat later with rfl | ⟨rest, final, rfl⟩
      · obtain ⟨rfl, hLast⟩ := List.append_inj' hDeeds rfl
        cases hLast
        exact ⟨_, _, before, hStep⟩
      · rw [List.concat_eq_append, ← List.cons_append, ← List.append_assoc] at hDeeds
        exact ih (List.append_inj' hDeeds rfl).1

/-! ## No use after finishing -/

/-- What clones can do next: while one has a guard it alone can go on, and otherwise each of them
can lock the slot or take the transaction out. -/
structure GoesOn (content : τ) (deeds : List (Deed τ)) (slot : Slot τ) : Prop where
  guarded : ∀ clone ∈ guards deeds,
    (∀ statement, slot.step clone (.execute statement) = some (.ran statement, slot)) ∧
    ∃ after, slot.step clone .release = some (.released, after)
  lock : guards deeds = [] → ∀ clone, ∃ after,
    slot.step clone .lock = some (if isTaken deeds then .finalized else .locked, after)
  take : guards deeds = [] → ∀ clone, ∃ after,
    slot.step clone .take = some (if isTaken deeds then .nothing else .taken content, after)

/-- What can be done next depends only on who has a guard and whether the transaction was taken. -/
theorem Standing.goesOn {deeds : List (Deed τ)} {slot : Slot τ}
    (h : Standing content (takings deeds) (guards deeds) slot) : GoesOn content deeds slot := by
  generalize hTook : takings deeds = took at h
  generalize hHeld : guards deeds = held at h
  have hTaken : isTaken deeds = !took.isEmpty := by rw [isTaken, hTook]
  cases h with
  | full holder =>
      rw [List.isEmpty_nil, Bool.not_true] at hTaken
      cases holder with
      | none =>
          refine ⟨by simp [hHeld], fun _ clone => ⟨⟨some content, some clone⟩, ?_⟩,
            fun _ clone => ⟨empty, ?_⟩⟩
          · rw [hTaken]
            rfl
          · rw [hTaken]
            rfl
      | some holder =>
          rw [Option.toList_some] at hHeld
          refine ⟨fun clone hClone => ?_, by simp [hHeld], by simp [hHeld]⟩
          rw [hHeld, List.mem_singleton] at hClone
          subst hClone
          exact ⟨fun statement => by simp [Slot.step, isOpen],
            ⟨some content, none⟩, by simp [Slot.step]⟩
  | taken others =>
      rw [List.isEmpty_cons, Bool.not_false] at hTaken
      refine ⟨by simp [hHeld], fun _ clone => ⟨empty, ?_⟩, fun _ clone => ⟨empty, ?_⟩⟩
      · rw [hTaken]
        rfl
      · rw [hTaken]
        rfl

/-- What holds of a deed, given what was done before it. -/
structure Orderly (content : τ) (earlier : List (Deed τ)) (deed : Deed τ) : Prop where
  seen : deed.effect ≠ .vanished
  lock : deed.action = .lock →
    guards earlier = [] ∧ deed.effect = if isTaken earlier then .finalized else .locked
  execute : ∀ statement, deed.action = .execute statement →
    guards earlier = [deed.clone] ∧ deed.effect = .ran statement ∧ isTaken earlier = false
  release : deed.action = .release → guards earlier = [deed.clone] ∧ deed.effect = .released
  take : deed.action = .take →
    guards earlier = [] ∧ deed.effect = if isTaken earlier then .nothing else .taken content

/-- A deed that could be done was in order. -/
theorem Standing.orderly {earlier : List (Deed τ)} {slot next : Slot τ} {deed : Deed τ}
    (h : Standing content (takings earlier) (guards earlier) slot)
    (hStep : slot.step deed.clone deed.action = some (deed.effect, next)) :
    Orderly content earlier deed := by
  obtain ⟨clone, action, effect⟩ := deed
  generalize hTook : takings earlier = took at h
  generalize hHeld : guards earlier = held at h
  have hTaken : isTaken earlier = !took.isEmpty := by rw [isTaken, hTook]
  cases h with
  | full holder =>
      rw [List.isEmpty_nil, Bool.not_true] at hTaken
      cases used_of_step hStep with
      | locked => constructor <;> simp [hHeld, hTaken]
      | ran statement => constructor <;> simp [hHeld, hTaken]
      | released => constructor <;> simp [hHeld]
      | taken => constructor <;> simp [hHeld, hTaken]
  | taken others =>
      rw [List.isEmpty_cons, Bool.not_false] at hTaken
      obtain ⟨rfl, ⟨rfl, rfl⟩ | ⟨rfl, rfl⟩⟩ := step_empty hStep
      · constructor <;> simp [hHeld, hTaken]
      · constructor <;> simp [hHeld, hTaken]

/-- Whatever the clones of a handle do, in whatever order: one attempt to take the transaction out
gets it and all others get nothing, at most one guard is alive, every deed is in order, and the
clones can go on. -/
theorem unused_once_taken {deeds : List (Deed τ)} {slot : Slot τ} (h : Run content deeds slot) :
    (takings deeds = [] ∨
      ∃ others, takings deeds = .taken content :: List.replicate others .nothing) ∧
    (guards deeds).length ≤ 1 ∧
    (∀ earlier deed later, deeds = earlier ++ deed :: later → Orderly content earlier deed) ∧
    GoesOn content deeds slot := by
  refine ⟨h.standing.takings_eq, h.standing.length_le, fun earlier deed later hDeeds => ?_,
    h.standing.goesOn⟩
  obtain ⟨before, after, hBefore, hStep⟩ := h.before hDeeds
  exact hBefore.standing.orderly hStep

/-- The handler works and lets go, the isolation stage takes the transaction out, and a task that
the handler left behind and the guard against dropping come too late. -/
theorem unused_once_taken_by_stage :
    let deeds : List (Deed Unit) := [⟨0, .lock, .locked⟩, ⟨0, .execute "SELECT 1", .ran "SELECT 1"⟩,
      ⟨0, .release, .released⟩, ⟨1, .take, .taken ()⟩, ⟨2, .lock, .finalized⟩, ⟨3, .take, .nothing⟩]
    Run () deeds (empty : Slot Unit) ∧ takings deeds = [.taken (), .nothing] ∧
      GoesOn () deeds empty := by
  intro deeds
  have hRun : Run () deeds (empty : Slot Unit) :=
    ((((((Run.fresh.step ⟨0, .lock, .locked⟩ rfl).step
      ⟨0, .execute "SELECT 1", .ran "SELECT 1"⟩ rfl).step ⟨0, .release, .released⟩ rfl).step
      ⟨1, .take, .taken ()⟩ rfl).step ⟨2, .lock, .finalized⟩ rfl).step ⟨3, .take, .nothing⟩ rfl)
  obtain ⟨_, _, _, hGoesOn⟩ := unused_once_taken hRun
  exact ⟨hRun, rfl, hGoesOn⟩

end Gatehouse.Database.Slot

/-! ## The steps of programs -/
namespace Gatehouse.Program

open Database

variable {σ : Type} {world : World σ} {deadline : Option Duration}

/-- A request that gets the lock makes the step of locking the slot. -/
theorem run_lockTransaction_eq_step {scene after : Scene σ} (clone : Nat)
    (hAsk : scene.ask world deadline .untilFree = .ok ((), after))
    (hFree : after.handle.slot.isFree) :
    ∃ effect slot, after.handle.slot.step clone .lock = some (effect, slot) ∧
      lockTransaction.run world deadline scene =
        ⟨.finished (if effect = .finalized then .error .finalized else .ok ()), after,
          [.answered .untilFree ()]⟩ := by
  rw [run_lockTransaction, hAsk, Slot.step, if_pos hFree]
  cases hOpen : after.handle.slot.isOpen with
  | true => exact ⟨.locked, _, rfl, by simp [hOpen]⟩
  | false => exact ⟨.finalized, _, rfl, by simp [hOpen]⟩

/-- A request that takes the transaction out makes the step of taking it out of the slot. -/
theorem run_takeTransaction_eq_step {scene after : Scene σ} (clone : Nat)
    (hAsk : scene.ask world deadline .untilFree = .ok ((), after))
    (hFree : after.handle.slot.isFree) :
    ∃ effect slot, after.handle.slot.step clone .take = some (effect, slot) ∧
      takeTransaction.run world deadline scene =
        ⟨.finished (if effect = .nothing then none else some ()),
          { after with handle := { after.handle with slot := slot } },
          [.answered .untilFree ()]⟩ := by
  rw [run_takeTransaction, hAsk, Slot.step, if_pos hFree]
  cases hContent : after.handle.slot.content with
  | some content =>
      exact ⟨.taken (), after.handle.slot.take.2, by rw [Slot.take, hContent],
        by simp [hContent, Handle.emptied]⟩
  | none =>
      exact ⟨.nothing, after.handle.slot.take.2, by rw [Slot.take, hContent],
        by simp [hContent, Handle.emptied]⟩

end Gatehouse.Program
