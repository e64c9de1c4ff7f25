import Gatehouse.Database.Error

/-! The place that all clones of a transaction handle share. It holds the transaction while that
is open. A clone works on the transaction under a lock, which one clone has at a time, and the
transaction is taken out, for good, to finish it. -/
namespace Gatehouse.Database

structure Slot (τ : Type) where
  content : Option τ
  /-- The clone that has the lock. -/
  holder : Option Nat
  deriving DecidableEq, Repr

namespace Slot

variable {τ : Type}

/-- The slot before there is a transaction, and after it has been taken out. -/
def empty : Slot τ := ⟨none, none⟩

/-- The slot of a new handle. -/
def hold (content : τ) : Slot τ := ⟨some content, none⟩

def isOpen (slot : Slot τ) : Bool :=
  slot.content.isSome

/-- No clone has the lock. -/
def isFree (slot : Slot τ) : Bool :=
  slot.holder.isNone

/-- What is taken out, and the slot that stays empty. -/
def take (slot : Slot τ) : Option τ × Slot τ :=
  (slot.content, { slot with content := none })

/-- What one clone does with the slot. -/
inductive Action
  | lock
  | execute (statement : String)
  | release
  | take

/-- What comes of an action. -/
inductive Effect (τ : Type)
  | locked
  | finalized
  /-- The statement has run on the transaction. -/
  | ran (statement : String)
  /-- The slot was found empty under the lock. -/
  | vanished
  | released
  | taken (content : τ)
  | nothing
  deriving DecidableEq

/-- One action of one clone. There is no step for a clone that has to wait for the lock, nor
for work under a lock that the clone does not have. -/
def step (slot : Slot τ) (clone : Nat) : Action → Option (Effect τ × Slot τ)
  | .lock =>
    if slot.isFree then
      if slot.isOpen then some (.locked, { slot with holder := some clone })
      else some (.finalized, slot)
    else none
  | .execute statement =>
    if slot.holder = some clone then
      if slot.isOpen then some (.ran statement, slot) else some (.vanished, slot)
    else none
  | .release =>
    if slot.holder = some clone then some (.released, { slot with holder := none }) else none
  | .take =>
    if slot.isFree then
      match slot.take with
      | (some content, slot) => some (.taken content, slot)
      | (none, slot) => some (.nothing, slot)
    else none

@[simp] theorem isOpen_take (slot : Slot τ) : slot.take.2.isOpen = false := rfl

@[simp] theorem isOpen_hold (content : τ) : (hold content).isOpen = true := rfl

end Slot

end Gatehouse.Database
