/-! A string-keyed store in which a value may be set for a time. Times are microseconds, and a
clock may stand below zero. A value set at time `t` for `n` seconds is there up to, but not at,
`t + n` seconds. -/
namespace Gatehouse.Store

structure Entry (α : Type) where
  value : α
  /-- The time from which the entry is gone, if it ever goes. -/
  expiry : Option Int

/-- The entry can still be seen at time `now`. -/
def Entry.isLive {α : Type} (entry : Entry α) (now : Int) : Bool :=
  match entry.expiry with
  | none => true
  | some expiry => now < expiry

structure KeyValue (α : Type) where
  entries : List (String × Entry α)

namespace KeyValue

variable {α : Type}

def empty : KeyValue α := ⟨[]⟩

def get? (store : KeyValue α) (now : Int) (key : String) : Option α :=
  match store.entries.lookup key with
  | none => none
  | some entry => if entry.isLive now then some entry.value else none

def erase (store : KeyValue α) (key : String) : KeyValue α :=
  ⟨store.entries.filter fun entry => entry.1 != key⟩

def insert (store : KeyValue α) (key : String) (entry : Entry α) : KeyValue α :=
  ⟨(key, entry) :: (store.erase key).entries⟩

/-- Sets a value for good. -/
def set (store : KeyValue α) (key : String) (value : α) : KeyValue α :=
  store.insert key ⟨value, none⟩

/-- Sets a value for a number of seconds. -/
def setFor (store : KeyValue α) (now : Int) (key : String) (value : α) (seconds : Nat) :
    KeyValue α :=
  store.insert key ⟨value, some (now + seconds * 1000000)⟩

theorem get?_insert_self (store : KeyValue α) (now : Int) (key : String) (entry : Entry α) :
    (store.insert key entry).get? now key =
      if entry.isLive now then some entry.value else none := by
  simp [get?, insert]

theorem lookup_filter_ne {key other : String} (h : other ≠ key)
    (entries : List (String × Entry α)) :
    (entries.filter fun entry => entry.1 != key).lookup other = entries.lookup other := by
  induction entries with
  | nil => rfl
  | cons entry rest ih =>
    obtain ⟨name, entry⟩ := entry
    by_cases e : name = key
    · subst e
      have ne : (other == name) = false := by simp [h]
      simp [List.lookup_cons, ih, ne]
    · simp [e, List.lookup_cons, ih]

theorem lookup_insert_of_ne (store : KeyValue α) {key other : String} (h : other ≠ key)
    (entry : Entry α) :
    (store.insert key entry).entries.lookup other = store.entries.lookup other := by
  have ne : (other == key) = false := by simp [h]
  simp only [insert, List.lookup_cons, ne]
  exact lookup_filter_ne h store.entries

theorem lookup_erase_self (store : KeyValue α) (key : String) :
    (store.erase key).entries.lookup key = none := by
  rw [erase]
  induction store.entries with
  | nil => rfl
  | cons entry rest ih =>
    obtain ⟨name, entry⟩ := entry
    by_cases e : name = key
    · simp [e, ih]
    · have ne : (key == name) = false := by simp [Ne.symm e]
      simp [e, List.lookup_cons, ih, ne]

theorem get?_erase_of_ne (store : KeyValue α) (now : Int) {key other : String} (h : other ≠ key) :
    (store.erase key).get? now other = store.get? now other := by
  simp only [get?, erase, lookup_filter_ne h]

theorem get?_insert_of_ne (store : KeyValue α) (now : Int) {key other : String} (h : other ≠ key)
    (entry : Entry α) : (store.insert key entry).get? now other = store.get? now other := by
  simp only [get?, lookup_insert_of_ne store h]

end KeyValue

end Gatehouse.Store
