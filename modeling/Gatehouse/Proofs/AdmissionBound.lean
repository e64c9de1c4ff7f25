import Gatehouse.Proofs.ArrivalTimes

/-! How many requests a limit lets through in a window of time. The arrival time of a key stands
at least one interval later for each request that was admitted since the window opened, and a
request is admitted only while that time is no more than a burst ahead of the clock. -/
namespace Gatehouse.RateLimit.Limit

/-- The period in seconds. -/
def exactPeriod (limit : Limit) : ℚ :=
  limit.period.nanoseconds / 1000000000

/-- The limit as the counting script gets it, in exact numbers. -/
def exactQuota (limit : Limit) : Gcra.Quota ℚ :=
  ⟨limit.burst, (max limit.rate 1 : ℕ), limit.exactPeriod⟩

/-- The interval of a limit is its period, shared out among the requests of its rate. -/
theorem interval_exactQuota {limit : Limit} (hRate : 1 ≤ limit.rate) :
    limit.exactQuota.interval = limit.exactPeriod / limit.rate := by
  have hQuota : limit.exactQuota = ⟨limit.burst, limit.rate, limit.exactPeriod⟩ := by
    simp [exactQuota, max_eq_left hRate]
  rw [hQuota]
  rfl

theorem exactPeriod_pos {limit : Limit} (hPeriod : 0 < limit.period.nanoseconds) :
    0 < limit.exactPeriod := by
  have hCast : (0 : ℚ) < limit.period.nanoseconds := by exact_mod_cast hPeriod
  exact div_pos hCast (by norm_num)

theorem interval_pos {limit : Limit} (hRate : 1 ≤ limit.rate)
    (hPeriod : 0 < limit.period.nanoseconds) : 0 < limit.exactQuota.interval := by
  have hCast : (0 : ℚ) < limit.rate := by exact_mod_cast hRate
  rw [interval_exactQuota hRate]
  exact div_pos (exactPeriod_pos hPeriod) hCast

/-- The requests that a window is to let through at most. -/
def allowance (limit : Limit) (opening closing : ℚ) : ℤ :=
  limit.burst + ⌊(closing - opening) * limit.rate / limit.exactPeriod⌋

end Gatehouse.RateLimit.Limit

namespace Gatehouse.Store

open RateLimit RateLimit.Limit

/-- What can be done under a key of the server. -/
inductive Deed
  | count (quota : Gcra.Quota ℚ)
  | set (text : String) (seconds : Nat)
  | delete

/-- Something done under a key, at a clock time of the server. -/
structure Visit where
  time : Int
  key : String
  deed : Deed

namespace Visit

def seconds (visit : Visit) : ℚ :=
  visit.time / 1000000

/-- Whether the visit is under a key and in a closed window of time. -/
def isWithin (key : String) (opening closing : ℚ) (visit : Visit) : Bool :=
  decide (visit.key = key ∧ opening ≤ visit.seconds ∧ visit.seconds ≤ closing)

end Visit

namespace Data

/-- Whether a visit is counted and admitted, and the data after it. -/
def visit (data : Data ℚ) (visit : Visit) : Bool × Data ℚ :=
  match visit.deed with
  | .count quota =>
    let (verdict, next) := data.count visit.time visit.key quota
    (verdict.allowed, next)
  | .set text seconds => (false, data.setFor visit.time visit.key (.text text) seconds)
  | .delete => (false, data.erase visit.key)

/-- The visits that are admitted when all are made in order. -/
def admitted (data : Data ℚ) : List Visit → List Visit
  | [] => []
  | visit :: rest =>
    let (allowed, next) := data.visit visit
    if allowed then visit :: next.admitted rest else next.admitted rest

variable {data : Data ℚ} {limit : Limit} {key : String} {opening closing : ℚ} {now : Int}
  {spent : Nat}

theorem get?_visit_of_ne (data : Data ℚ) {visit : Visit} (h : visit.key ≠ key) (later : Int) :
    (data.visit visit).2.get? later key = data.get? later key := by
  obtain ⟨time, other, deed⟩ := visit
  cases deed with
  | count quota => exact get?_count_of_ne data (Ne.symm h) time later quota
  | set text seconds => exact KeyValue.get?_insert_of_ne _ _ (Ne.symm h) _
  | delete => exact KeyValue.get?_erase_of_ne _ _ (Ne.symm h)

/-! ## The invariant -/

/-- From now on the arrival time under a key lies as many intervals after the opening of a window
as requests were admitted since. -/
def Spent (limit : Limit) (key : String) (opening : ℚ) (data : Data ℚ) (now : Int)
    (spent : Nat) : Prop :=
  ∀ later, now ≤ later → opening ≤ later / 1000000 →
    opening - Gcra.epoch + spent * limit.exactQuota.interval ≤ data.arrivalAt later key

theorem spent_zero (data : Data ℚ) (now : Int) : Spent limit key opening data now 0 := by
  intro later _ hOpen
  have hClock := clock_le_arrivalAt data later key
  rw [Gcra.clock_eq] at hClock
  push_cast
  linarith

/-- Between the opening and the closing an admission finds room for one more interval. -/
theorem Spent.room (h : Spent limit key opening data now spent)
    (hRate : 1 ≤ limit.rate) (hPeriod : 0 < limit.period.nanoseconds) {time : Int}
    (hTime : now ≤ time) (hOpen : opening ≤ time / 1000000) (hClose : time / 1000000 ≤ closing)
    (hReach : data.arrivalAt time key + limit.exactQuota.interval ≤
      Gcra.clock time + limit.exactQuota.interval * limit.burst) :
    (spent + 1 : ℤ) ≤ limit.allowance opening closing := by
  have hKept := h time hTime hOpen
  have hPeriod' := exactPeriod_pos hPeriod
  have hRate' : (0 : ℚ) < limit.rate := by exact_mod_cast hRate
  have hInterval : 0 < limit.exactQuota.interval := interval_pos hRate hPeriod
  have hClock := Gcra.clock_eq time
  have hFits : ((spent : ℚ) + 1 - limit.burst) * limit.exactQuota.interval ≤ closing - opening := by
    linarith
  have hCount : (spent : ℚ) + 1 - limit.burst ≤
      (closing - opening) * limit.rate / limit.exactPeriod := by
    rw [interval_exactQuota hRate, ← mul_div_assoc, div_le_iff₀ hRate'] at hFits
    rwa [le_div_iff₀ hPeriod']
  have hFloor : (spent + 1 - limit.burst : ℤ) ≤
      ⌊(closing - opening) * limit.rate / limit.exactPeriod⌋ := by
    rw [Int.le_floor]
    exact_mod_cast hCount
  unfold Limit.allowance
  omega

/-- What is spent stays spent while the arrival time does not fall. -/
theorem Spent.of_le (h : Spent limit key opening data now spent) {next : Data ℚ} {time : Int}
    (hTime : now ≤ time)
    (hNext : ∀ later, time ≤ later → data.arrivalAt later key ≤ next.arrivalAt later key) :
    Spent limit key opening next time spent :=
  fun later hLater hOpen => (h later (hTime.trans hLater) hOpen).trans (hNext later hLater)

/-- The visits that a window counts: those under the key that fall into it and are admitted. -/
def isCounted (data : Data ℚ) (key : String) (opening closing : ℚ) (visit : Visit) : Bool :=
  (data.visit visit).1 && visit.isWithin key opening closing

/-- A counted visit moves the arrival time on by one interval, and there was room for it. -/
theorem Spent.counted (h : Spent limit key opening data now spent)
    (hRate : 1 ≤ limit.rate) (hPeriod : 0 < limit.period.nanoseconds) {visit : Visit}
    (hTime : now ≤ visit.time) (hDeed : visit.key = key → visit.deed = .count limit.exactQuota)
    (hCounted : data.isCounted key opening closing visit = true) :
    Spent limit key opening (data.visit visit).2 visit.time (spent + 1) ∧
      (spent + 1 : ℤ) ≤ limit.allowance opening closing := by
  obtain ⟨time, other, deed⟩ := visit
  obtain ⟨hAllowed, hWithin⟩ := Bool.and_eq_true_iff.mp hCounted
  obtain ⟨rfl, hOpen, hClose⟩ := of_decide_eq_true hWithin
  obtain rfl : deed = .count limit.exactQuota := hDeed rfl
  obtain ⟨-, hReach, hNext⟩ | ⟨hDenied, -⟩ :=
    count_cases data other time limit.exactQuota (interval_pos hRate hPeriod)
  · refine ⟨fun later _ _ => ?_, h.room hRate hPeriod hTime hOpen hClose hReach⟩
    have hKept : opening - Gcra.epoch + spent * limit.exactQuota.interval ≤
        data.arrivalAt time other := h time hTime hOpen
    calc opening - Gcra.epoch + (spent + 1 : ℕ) * limit.exactQuota.interval
        ≤ data.arrivalAt time other + limit.exactQuota.interval := by
          push_cast
          linarith
      _ ≤ _ := hNext later
  · exact absurd (hDenied.symm.trans hAllowed) Bool.false_ne_true

/-- A visit that is not counted brings no arrival time forward. -/
theorem Spent.uncounted (h : Spent limit key opening data now spent)
    (hRate : 1 ≤ limit.rate) (hPeriod : 0 < limit.period.nanoseconds) {visit : Visit}
    (hTime : now ≤ visit.time) (hDeed : visit.key = key → visit.deed = .count limit.exactQuota) :
    Spent limit key opening (data.visit visit).2 visit.time spent := by
  refine h.of_le hTime fun later hLater => ?_
  by_cases hKey : visit.key = key
  · obtain ⟨time, other, deed⟩ := visit
    obtain rfl : other = key := hKey
    obtain rfl : deed = .count limit.exactQuota := hDeed rfl
    exact arrivalAt_le_count data other (interval_pos hRate hPeriod) hLater
  · exact (arrivalAt_congr (get?_visit_of_ne data hKey later)).ge

/-! ## Runs -/

/-- How many visits of a run a window counts. -/
def countedIn (data : Data ℚ) (key : String) (opening closing : ℚ) (visits : List Visit) : Nat :=
  (data.admitted visits).countP (Visit.isWithin key opening closing)

/-- The first visit counts for itself, the others from the data that it leaves. -/
theorem countedIn_cons (data : Data ℚ) (visit : Visit) (rest : List Visit) :
    data.countedIn key opening closing (visit :: rest) =
      (data.visit visit).2.countedIn key opening closing rest +
        if data.isCounted key opening closing visit then 1 else 0 := by
  unfold countedIn
  rw [admitted]
  cases hAllowed : (data.visit visit).1 with
  | false => simp [hAllowed, isCounted]
  | true => simp [hAllowed, isCounted, List.countP_cons]

/-- Along a whole run no more is counted than what the allowance still has. -/
theorem Spent.countedIn_le (hRate : 1 ≤ limit.rate) (hPeriod : 0 < limit.period.nanoseconds)
    (visits : List Visit)
    (hTimes : visits.Pairwise fun earlier later => earlier.time ≤ later.time)
    (hDeeds : ∀ visit ∈ visits, visit.key = key → visit.deed = .count limit.exactQuota)
    (hNow : ∀ visit ∈ visits, now ≤ visit.time) (h : Spent limit key opening data now spent)
    (hSpent : (spent : ℤ) ≤ limit.allowance opening closing) :
    (spent + data.countedIn key opening closing visits : ℤ) ≤
      limit.allowance opening closing := by
  -- Along the visits `spent` is what the window has counted so far, which is always in bounds.
  induction visits generalizing data now spent with
  | nil => simpa [countedIn, admitted] using hSpent
  | cons visit rest ih =>
      obtain ⟨hLater, hRest⟩ := List.pairwise_cons.mp hTimes
      have hTime := hNow visit (List.mem_cons_self ..)
      have hDeed := hDeeds visit (List.mem_cons_self ..)
      have hDeeds' : ∀ other ∈ rest, other.key = key → other.deed = .count limit.exactQuota :=
        fun other hOther => hDeeds other (List.mem_cons_of_mem _ hOther)
      rw [countedIn_cons]
      cases hCounted : data.isCounted key opening closing visit with
      | false =>
          have hNext := h.uncounted hRate hPeriod hTime hDeed
          simpa using ih hRest hDeeds' hLater hNext hSpent
      | true =>
          obtain ⟨hNext, hRoom⟩ := h.counted hRate hPeriod hTime hDeed hCounted
          have hTotal := ih hRest hDeeds' hLater hNext (by exact_mod_cast hRoom)
          push_cast at hTotal
          simp only [if_true]
          push_cast
          omega

/-- In every closed window of time the requests under a key that are admitted are at most the
burst and those that the rate sustains over the length of the window, whatever is kept at first
and whatever is done under other keys. -/
theorem admitted_in_window_le (limit : Limit) (hRate : 1 ≤ limit.rate)
    (hPeriod : 0 < limit.period.nanoseconds) (data : Data ℚ) (key : String) (visits : List Visit)
    (hTimes : visits.Pairwise fun earlier later => earlier.time ≤ later.time)
    (hDeeds : ∀ visit ∈ visits, visit.key = key → visit.deed = .count limit.exactQuota)
    (opening closing : ℚ) (hWindow : opening ≤ closing) :
    ((data.admitted visits).countP (Visit.isWithin key opening closing) : ℤ) ≤
      limit.burst + ⌊(closing - opening) * limit.rate / limit.exactPeriod⌋ := by
  have hNone : 0 ≤ ⌊(closing - opening) * limit.rate / limit.exactPeriod⌋ := by
    have hLength : 0 ≤ closing - opening := by linarith
    have hPeriod' := exactPeriod_pos hPeriod
    exact Int.floor_nonneg.mpr (by positivity)
  have hSpent : ((0 : ℕ) : ℤ) ≤ limit.allowance opening closing := by
    unfold Limit.allowance
    omega
  cases visits with
  | nil => simpa [admitted, Limit.allowance] using hSpent
  | cons first rest =>
      -- Nothing is spent at the first visit, whatever was kept before it.
      have hNow : ∀ visit ∈ first :: rest, first.time ≤ visit.time := by
        intro visit hVisit
        obtain rfl | hVisit := List.mem_cons.mp hVisit
        · exact le_rfl
        · exact (List.pairwise_cons.mp hTimes).1 visit hVisit
      have hBound := Spent.countedIn_le hRate hPeriod (first :: rest) hTimes hDeeds hNow
        (spent_zero data first.time) hSpent
      simpa [countedIn, Limit.allowance] using hBound

/-- One request a minute, and one at once: of three requests in a minute, both ends of it
included, the first and the last are admitted, and no more could be. -/
theorem admitted_in_minute :
    let limit : Limit := ⟨1, 1, .ofSeconds 60⟩
    let visits : List Visit := [⟨1500000000000000, "key", .count limit.exactQuota⟩,
      ⟨1500000001000000, "other", .set "text" 5⟩, ⟨1500000059000000, "key", .count limit.exactQuota⟩,
      ⟨1500000060000000, "key", .count limit.exactQuota⟩]
    let data : Data ℚ := .empty
    let counted := (data.admitted visits).countP (Visit.isWithin "key" 1500000000 1500000060)
    let bound := limit.burst +
      ⌊(1500000060 - 1500000000) * (limit.rate : ℚ) / limit.exactPeriod⌋
    (counted : ℤ) ≤ bound ∧ counted = 2 ∧ bound = 2 := by
  intro limit visits data counted bound
  refine ⟨?_, by decide +kernel, by decide +kernel⟩
  exact admitted_in_window_le limit (by decide) (by decide) data "key" visits
    (by simp [visits]) (by simp [visits]) 1500000000 1500000060 (by norm_num)

end Data

end Gatehouse.Store
