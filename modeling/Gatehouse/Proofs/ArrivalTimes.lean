import Mathlib
import Gatehouse.Store.Server

/-! Counting in exact numbers. What decides on a request is the arrival time of its key: the kept
one, or the present. An admitted request moves it on by one interval, and it is not lost when its
entry expires, since by then it has passed. -/
namespace Gatehouse.RateLimit.Gcra

/-! ## Verdicts -/

theorem ofInt_eq (n : Int) : (ofInt n : ℚ) = n := by
  unfold ofInt
  split
  · next h =>
    change ((0 : ℕ) : ℚ) - ((n.natAbs : ℕ) : ℚ) = n
    rw [Nat.cast_natAbs, abs_of_neg h]
    simp
  · next h =>
    have hSame : ((n.toNat : ℕ) : ℤ) = n := by omega
    change ((n.toNat : ℕ) : ℚ) = n
    exact_mod_cast hSame

/-- The clock of the script is in seconds from its epoch. -/
theorem clock_eq (now : Int) : (clock now : ℚ) = now / 1000000 - epoch := by
  have hParts : (now : ℚ) = 1000000 * ((now / 1000000 : ℤ) : ℚ) + ((now % 1000000 : ℤ) : ℚ) := by
    exact_mod_cast (Int.mul_ediv_add_emod now 1000000).symm
  change (ofInt (now / 1000000) : ℚ) - (epoch : ℕ) + ofInt (now % 1000000) / (1000000 : ℕ) = _
  rw [ofInt_eq, ofInt_eq, hParts]
  push_cast
  ring

/-- A kept arrival time counts unless it has passed. -/
theorem arrival_some (now kept : ℚ) : arrival now (some kept) = max kept now := by
  change (if decide (kept < now) = true then now else kept) = _
  by_cases h : kept < now
  · rw [if_pos (decide_eq_true h), max_eq_right h.le]
  · rw [if_neg (by simpa using h), max_eq_left (not_lt.mp h)]

/-- An arrival time never lies in the past. -/
theorem le_arrival (now : ℚ) (kept : Option ℚ) : now ≤ arrival now kept := by
  cases kept with
  | none => exact le_rfl
  | some kept =>
      rw [arrival_some]
      exact le_max_right ..

/-- A request is admitted if the arrival time it makes is no later than a burst from now, and what
is then kept is that time. -/
theorem verdict_cases (quota : Quota ℚ) (hInterval : 0 < quota.interval) (now : ℚ)
    (kept : Option ℚ) :
    ((verdict quota now kept).allowed = true ∧
      arrival now kept + quota.interval ≤ now + quota.interval * quota.burst ∧
      (verdict quota now kept).keep = some (arrival now kept + quota.interval,
        (arrival now kept + quota.interval - now).ceil)) ∨
    ((verdict quota now kept).allowed = false ∧
      now + quota.interval * quota.burst < arrival now kept + quota.interval ∧
      (verdict quota now kept).keep = none) := by
  let next := arrival now kept + quota.interval
  let early := now - (next - quota.interval * quota.burst)
  have hReset : 0 < next - now := by linarith [le_arrival now kept]
  have hVerdict : verdict quota now kept =
      if decide (early / quota.interval < ((0 : ℕ) : ℚ)) = true then
        ⟨false, 0, early * (((0 : ℕ) : ℚ) - ((1 : ℕ) : ℚ)), arrival now kept - now, none⟩
      else
        ⟨true, (early / quota.interval).floor, ((0 : ℕ) : ℚ), next - now,
          if decide (((0 : ℕ) : ℚ) < next - now) = true then some (next, (next - now).ceil)
          else none⟩ := rfl
  by_cases hEarly : early < 0
  · have hNegative : early / quota.interval < ((0 : ℕ) : ℚ) := by
      simpa using div_neg_of_neg_of_pos hEarly hInterval
    rw [hVerdict, if_pos (decide_eq_true hNegative)]
    exact .inr ⟨rfl, by linarith, rfl⟩
  · have hNonneg : ¬ early / quota.interval < ((0 : ℕ) : ℚ) := by
      simpa using div_nonneg (not_lt.mp hEarly) hInterval.le
    rw [hVerdict, if_neg (by simpa using hNonneg), if_pos (by simpa using hReset)]
    exact .inl ⟨rfl, by linarith, rfl⟩

end Gatehouse.RateLimit.Gcra

namespace Gatehouse.Store.Data

open RateLimit

variable {key : String} {now later : Int} {quota : Gcra.Quota ℚ}

/-! ## Counting -/

/-- The clock of the script goes with that of the store. -/
theorem clock_lt_iff : (Gcra.clock now : ℚ) < Gcra.clock later ↔ now < later := by
  rw [Gcra.clock_eq, Gcra.clock_eq]
  constructor
  · intro h
    have hCast : (now : ℚ) < later := by linarith
    exact_mod_cast hCast
  · intro h
    have hCast : (now : ℚ) < later := by exact_mod_cast h
    linarith

/-- The arrival time that decides on a request under a key. -/
def arrivalAt (data : Data ℚ) (now : Int) (key : String) : ℚ :=
  Gcra.arrival (Gcra.clock now) ((data.get? now key).bind Stored.arrival?)

theorem clock_le_arrivalAt (data : Data ℚ) (now : Int) (key : String) :
    Gcra.clock now ≤ data.arrivalAt now key :=
  Gcra.le_arrival ..

theorem arrivalAt_congr {data other : Data ℚ} (h : data.get? now key = other.get? now key) :
    data.arrivalAt now key = other.arrivalAt now key := by
  unfold arrivalAt
  rw [h]

/-- An entry that is kept for the time up to an arrival time is gone only when that has passed. -/
theorem arrivalAt_setFor (data : Data ℚ) (key : String) (now later : Int) (time : ℚ) :
    time ≤ arrivalAt (data.setFor now key (.arrival time) (time - Gcra.clock now).ceil.toNat)
      later key := by
  unfold arrivalAt KeyValue.setFor
  rw [KeyValue.get?_insert_self]
  split
  · next hLive =>
    change time ≤ Gcra.arrival _ (some time)
    rw [Gcra.arrival_some]
    exact le_max_left ..
  · next hGone =>
    -- The entry was kept for whole seconds, rounded up, so that `later` is no earlier than `time`.
    change time ≤ Gcra.clock later
    have hLater : now + (time - Gcra.clock now).ceil.toNat * 1000000 ≤ later := by
      simpa [Entry.isLive] using hGone
    have hCeil : time - Gcra.clock now ≤ ((time - Gcra.clock now).ceil.toNat : ℚ) := by
      calc time - Gcra.clock now ≤ ((time - Gcra.clock now).ceil : ℚ) := Rat.le_ceil
        _ ≤ ((time - Gcra.clock now).ceil.toNat : ℚ) := by exact_mod_cast Int.self_le_toNat _
    have hCast : (now : ℚ) + (time - Gcra.clock now).ceil.toNat * 1000000 ≤ later := by
      exact_mod_cast hLater
    rw [Gcra.clock_eq] at hCeil hCast ⊢
    linarith

/-- The verdict depends on nothing of the data but the kept arrival time. -/
theorem count_verdict (data : Data ℚ) (now : Int) (key : String) (quota : Gcra.Quota ℚ) :
    (data.count now key quota).1 =
      Gcra.verdict quota (Gcra.clock now) ((data.get? now key).bind Stored.arrival?) := by
  unfold count
  dsimp only
  split <;> rfl

/-- What one request does: it moves its key's arrival time on by an interval, if that is in
reach, or else leaves the data alone. -/
theorem count_cases (data : Data ℚ) (key : String) (now : Int) (quota : Gcra.Quota ℚ)
    (hInterval : 0 < quota.interval) :
    ((data.count now key quota).1.allowed = true ∧
      data.arrivalAt now key + quota.interval ≤ Gcra.clock now + quota.interval * quota.burst ∧
      ∀ later, data.arrivalAt now key + quota.interval ≤
        (data.count now key quota).2.arrivalAt later key) ∨
    ((data.count now key quota).1.allowed = false ∧ (data.count now key quota).2 = data) := by
  obtain ⟨hAllowed, hReach, hKeep⟩ | ⟨hDenied, -, hKeep⟩ :=
    Gcra.verdict_cases quota hInterval (Gcra.clock now) ((data.get? now key).bind Stored.arrival?)
  · refine .inl ⟨?_, hReach, ?_⟩
    · unfold count
      simpa only [hKeep] using hAllowed
    · intro later
      unfold count
      simp only [hKeep]
      exact arrivalAt_setFor ..
  · unfold count
    simp only [hKeep]
    exact .inr ⟨hDenied, trivial⟩

/-- An entry that can be seen later can be seen now. -/
theorem get?_of_later {α : Type} {store : KeyValue α} {value : α} (h : now ≤ later)
    (hSeen : store.get? later key = some value) : store.get? now key = some value := by
  unfold KeyValue.get? at hSeen ⊢
  cases hEntry : store.entries.lookup key with
  | none =>
      rw [hEntry] at hSeen
      cases hSeen
  | some entry =>
      simp only [hEntry, Option.ite_none_right_eq_some] at hSeen ⊢
      refine ⟨?_, hSeen.2⟩
      cases hExpiry : entry.expiry with
      | none => simp [Entry.isLive, hExpiry]
      | some expiry =>
          have hLive : later < expiry := by simpa [Entry.isLive, hExpiry] using hSeen.1
          have hNow : now < expiry := by omega
          simpa [Entry.isLive, hExpiry] using hNow

/-- As time passes an arrival time is caught up with, and does not rise by itself. -/
theorem arrivalAt_later (data : Data ℚ) (key : String) (h : now ≤ later) :
    data.arrivalAt later key ≤ max (data.arrivalAt now key) (Gcra.clock later) := by
  cases hKept : (data.get? later key).bind Stored.arrival? with
  | none =>
      unfold arrivalAt
      rw [hKept]
      exact le_max_right ..
  | some time =>
      obtain ⟨stored, hStored, hTime⟩ := Option.bind_eq_some_iff.mp hKept
      unfold arrivalAt
      rw [hKept, get?_of_later h hStored, Option.bind_some, hTime, Gcra.arrival_some,
        Gcra.arrival_some]
      exact max_le_max_right _ (le_max_left ..)

/-- Counting never brings an arrival time forward, at no later time. -/
theorem arrivalAt_le_count (data : Data ℚ) (key : String) (hInterval : 0 < quota.interval)
    (h : now ≤ later) :
    data.arrivalAt later key ≤ (data.count now key quota).2.arrivalAt later key := by
  obtain ⟨-, -, hKept⟩ | ⟨-, hSame⟩ := count_cases data key now quota hInterval
  · have hClock := clock_le_arrivalAt (data.count now key quota).2 later key
    refine (arrivalAt_later data key h).trans (max_le ?_ hClock)
    linarith [hKept later]
  · rw [hSame]

theorem get?_count_of_ne (data : Data ℚ) {key other : String} (h : key ≠ other) (now later : Int)
    (quota : Gcra.Quota ℚ) :
    (data.count now other quota).2.get? later key = data.get? later key := by
  unfold count
  dsimp only
  split
  · rfl
  · exact KeyValue.get?_insert_of_ne _ _ h _

end Gatehouse.Store.Data
