import Gatehouse.Proofs.Forecast

/-! What the store can say at all. It never stores an arrival time that lies further ahead than a
burst takes, and a request that it refuses moves none. So however many are refused, the wait that they
are told never gets longer than it takes one request to be earned back. -/
namespace Gatehouse.Store.Data

open RateLimit RateLimit.Limit

variable {data : Data ℚ} {limit : Limit} {key : String} {now later : Int}

/-! ## Stored arrival times -/

/-- The arrival time that is stored under a key, be its entry gone by now or not. -/
def stored? (data : Data ℚ) (key : String) : Option ℚ :=
  (data.entries.lookup key).bind fun entry => entry.value.arrival?

theorem stored?_insert_self (data : Data ℚ) (key : String) (entry : Entry (Stored ℚ)) :
    stored? (data.insert key entry) key = entry.value.arrival? := by
  simp [stored?, KeyValue.insert]

/-- What is kept under a key does not change by visits to others. -/
theorem stored?_visit_of_ne (data : Data ℚ) {visit : Visit} (h : visit.key ≠ key) :
    (data.visit visit).2.stored? key = data.stored? key := by
  obtain ⟨time, other, deed⟩ := visit
  have hOther : key ≠ other := Ne.symm h
  unfold stored? Data.visit
  cases deed with
  | count quota =>
      dsimp only
      unfold count
      dsimp only
      split
      · rfl
      · rw [KeyValue.setFor, KeyValue.lookup_insert_of_ne _ hOther]
  | set text seconds =>
      dsimp only
      rw [KeyValue.setFor, KeyValue.lookup_insert_of_ne _ hOther]
  | delete =>
      dsimp only
      rw [KeyValue.erase, KeyValue.lookup_filter_ne hOther]

/-- What can be seen is stored. -/
theorem stored?_of_seen {time : ℚ}
    (h : (data.get? now key).bind Stored.arrival? = some time) : data.stored? key = some time := by
  obtain ⟨value, hSeen, hTime⟩ := Option.bind_eq_some_iff.mp h
  unfold KeyValue.get? at hSeen
  unfold stored?
  cases hEntry : data.entries.lookup key with
  | none =>
      rw [hEntry] at hSeen
      cases hSeen
  | some entry =>
      simp only [hEntry, Option.ite_none_right_eq_some, Option.some.injEq] at hSeen
      rw [Option.bind_some, hSeen.2, hTime]

/-! ## The invariant -/

/-- What is stored under a key lies no further ahead than a burst takes. -/
def InReach (limit : Limit) (key : String) (data : Data ℚ) (now : Int) : Prop :=
  ∀ time, data.stored? key = some time →
    time ≤ Gcra.clock now + limit.burst * limit.exactQuota.interval

theorem inReach_empty (now : Int) : InReach limit key .empty now := nofun

/-- What is in reach now is so later. -/
theorem InReach.mono (h : InReach limit key data now) (hLater : now ≤ later) :
    InReach limit key data later := by
  intro time hStored
  have hClock := clock_le_clock hLater
  linarith [h time hStored]

/-- A request is admitted only if the arrival time that it makes is in reach, and of all other visits
none makes one. -/
theorem InReach.visit (hInterval : 0 < limit.exactQuota.interval) {visit : Visit}
    (h : InReach limit key data visit.time)
    (hDeed : visit.key = key → visit.deed = .count limit.exactQuota) :
    InReach limit key (data.visit visit).2 visit.time := by
  by_cases hKey : visit.key = key
  · rw [visit_count hKey (hDeed hKey)]
    obtain ⟨-, hReach, hKeep⟩ | ⟨-, -, hKeep⟩ := Gcra.verdict_cases limit.exactQuota hInterval
      (Gcra.clock visit.time) ((data.get? visit.time key).bind Stored.arrival?)
    · intro time hStored
      unfold count at hStored
      simp only [hKeep, KeyValue.setFor, stored?_insert_self] at hStored
      cases hStored
      rw [mul_comm]
      exact hReach
    · unfold count
      simp only [hKeep]
      exact h
  · intro time hStored
    rw [stored?_visit_of_ne data hKey] at hStored
    exact h time hStored

/-- An arrival time is never more than the whole burst ahead. -/
theorem InReach.ahead_le (h : InReach limit key data now)
    (hInterval : 0 < limit.exactQuota.interval) :
    data.arrivalAt now key - Gcra.clock now ≤ limit.burst * limit.exactQuota.interval := by
  unfold arrivalAt
  cases hSeen : (data.get? now key).bind Stored.arrival? with
  | none =>
      have hBurst : 0 ≤ limit.burst * limit.exactQuota.interval := by positivity
      simpa [Gcra.arrival] using hBurst
  | some time =>
      have hTime := h time (stored?_of_seen hSeen)
      have hBurst : 0 ≤ limit.burst * limit.exactQuota.interval := by positivity
      rw [Gcra.arrival_some, sub_le_iff_le_add']
      exact max_le hTime (by linarith)

/-! ## Answers -/

/-- The room in time: what a burst takes, less one request and what lies ahead. -/
theorem roomAt_mul_interval (data : Data ℚ) (now : Int) (key : String)
    (hInterval : 0 < limit.exactQuota.interval) :
    data.roomAt now key limit.exactQuota * limit.exactQuota.interval =
      limit.burst * limit.exactQuota.interval - limit.exactQuota.interval -
        (data.arrivalAt now key - Gcra.clock now) := by
  unfold roomAt Gcra.room
  change ((limit.burst : ℚ) - 1 - _ / _) * _ = _
  rw [sub_mul, div_mul_cancel₀ _ hInterval.ne', sub_mul, one_mul]

/-- Whoever is allowed takes one of the burst, and waits for nothing. -/
theorem allowed_bounds (hInterval : 0 < limit.exactQuota.interval)
    (hAllowed : (data.count now key limit.exactQuota).1.allowed = true) :
    let verdict := (data.count now key limit.exactQuota).1
    0 ≤ verdict.remaining ∧ verdict.remaining ≤ limit.burst - 1 ∧ verdict.retryAfter = 0 ∧
      0 < verdict.resetAfter ∧ verdict.resetAfter ≤ limit.burst * limit.exactQuota.interval := by
  intro verdict
  obtain ⟨hRoom, hAnswer, -⟩ := count_of_allowed hInterval hAllowed
  have hRemaining : verdict.remaining = _ := congrArg Gcra.Answer.remaining hAnswer
  have hReset : verdict.resetAfter = data.arrivalAt now key + limit.exactQuota.interval -
    Gcra.clock now := congrArg Gcra.Answer.resetAfter hAnswer
  have hMost : data.roomAt now key limit.exactQuota ≤ ((limit.burst - 1 : ℤ) : ℚ) := by
    push_cast
    exact roomAt_le data now key hInterval
  have hAhead := clock_le_arrivalAt data now key
  -- Measured in time, the room that is left is what a burst takes without what is told.
  have hSpare := mul_nonneg hRoom hInterval.le
  rw [roomAt_mul_interval data now key hInterval] at hSpare
  refine ⟨?_, ?_, congrArg Gcra.Answer.retryAfter hAnswer, by linarith, by linarith⟩
  · rw [hRemaining]
    exact Int.floor_nonneg.mpr hRoom
  · rw [hRemaining]
    exact (Int.floor_le_floor hMost).trans_eq (Int.floor_intCast _)

/-- Whoever is denied has to wait for one interval at most. -/
theorem InReach.denied_bounds (h : InReach limit key data now)
    (hInterval : 0 < limit.exactQuota.interval)
    (hDenied : (data.count now key limit.exactQuota).1.allowed = false) :
    let verdict := (data.count now key limit.exactQuota).1
    verdict.remaining = 0 ∧ 0 < verdict.retryAfter ∧
      verdict.retryAfter ≤ limit.exactQuota.interval ∧ 0 ≤ verdict.resetAfter ∧
      verdict.resetAfter ≤ limit.burst * limit.exactQuota.interval := by
  intro verdict
  obtain ⟨hNone, hAnswer, -⟩ := count_of_denied hInterval hDenied
  have hRetry : verdict.retryAfter = _ := congrArg Gcra.Answer.retryAfter hAnswer
  have hReset : verdict.resetAfter = data.arrivalAt now key - Gcra.clock now :=
    congrArg Gcra.Answer.resetAfter hAnswer
  have hTime := roomAt_mul_interval data now key hInterval
  have hReach := h.ahead_le hInterval
  have hAhead := clock_le_arrivalAt data now key
  refine ⟨congrArg Gcra.Answer.remaining hAnswer, ?_, ?_, by linarith, by linarith⟩
  · rw [hRetry]
    exact mul_pos (neg_pos.mpr hNone) hInterval
  · rw [hRetry, neg_mul]
    linarith

/-- A number of requests that is no larger than a burst may be is told as it is. -/
theorem clampRemaining_eq {remaining : Int} {burst : ℕ} (hNonneg : 0 ≤ remaining)
    (hMost : remaining ≤ burst) (hBurst : burst ≤ Text.maxU32) :
    (Reply.clampRemaining remaining : Int) = remaining := by
  unfold Reply.clampRemaining
  omega

/-- Whatever requests came before, what is stored under a key lies no more than a burst ahead of a
later request. If that is admitted, fewer than a burst remain and the quota is full again when a burst
has been earned; if not, it waits for one request to be earned at most. In 32 bits nothing of what
remains is lost. -/
theorem replies_bounded (limit : Limit) (hRate : 1 ≤ limit.rate)
    (hPeriod : 0 < limit.period.nanoseconds) (key : String) (before : List Visit) (now : Int)
    (hRun : Orderly limit key (before ++ [request limit key now])) :
    let interval := limit.exactPeriod / limit.rate
    let data := visitAll .empty before
    let verdict := (data.count now key limit.exactQuota).1
    (∀ time, data.stored? key = some time → time ≤ Gcra.clock now + limit.burst * interval) ∧
    (verdict.allowed = true →
      0 ≤ verdict.remaining ∧ verdict.remaining ≤ limit.burst - 1 ∧ verdict.retryAfter = 0 ∧
        0 < verdict.resetAfter ∧ verdict.resetAfter ≤ limit.burst * interval) ∧
    (verdict.allowed = false →
      verdict.remaining = 0 ∧ 0 < verdict.retryAfter ∧ verdict.retryAfter ≤ interval ∧
        0 ≤ verdict.resetAfter ∧ verdict.resetAfter ≤ limit.burst * interval) ∧
    (limit.burst ≤ Text.maxU32 →
      (Reply.clampRemaining verdict.remaining : Int) = verdict.remaining) := by
  intro interval data verdict
  have hInterval : 0 < limit.exactQuota.interval := interval_pos hRate hPeriod
  have hSame : limit.exactQuota.interval = interval := interval_exactQuota hRate
  have hBefore : ∀ visit ∈ before, visit.time ≤ now := fun visit hVisit =>
    (List.pairwise_append.mp hRun.times).2.2 visit hVisit _ (List.mem_singleton_self _)
  have hReach : InReach limit key data now := hRun.left.holds (InReach limit key) inReach_empty
    (fun _ _ _ hLater hReach => hReach.mono hLater)
    (fun _ _ hDeed hReach => hReach.visit hInterval hDeed) hBefore
  have hAdmitted (h : verdict.allowed = true) := allowed_bounds hInterval h
  have hRefused (h : verdict.allowed = false) := hReach.denied_bounds hInterval h
  refine ⟨hSame ▸ hReach, hSame ▸ hAdmitted, hSame ▸ hRefused, fun hBurst => ?_⟩
  cases hAllowed : verdict.allowed with
  | true =>
      obtain ⟨hNonneg, hMost, -⟩ := hAdmitted hAllowed
      exact clampRemaining_eq hNonneg (hMost.trans (by omega)) hBurst
  | false =>
      obtain ⟨hNone, -⟩ := hRefused hAllowed
      exact clampRemaining_eq hNone.ge (hNone.le.trans (by omega)) hBurst

/-- Two requests in three seconds, three at once. When all three have come, both bounds are reached: the
next one waits for a second and a half, and the quota is full again after three times that. -/
theorem bounds_of_three_reached :
    let limit : Limit := ⟨2, 3, .ofSeconds 3⟩
    let one := request limit "key" 1500000000000000
    let before := [one, one, ⟨1500000000000000, "other", .delete⟩, one]
    let interval := limit.exactPeriod / limit.rate
    let verdict := ((visitAll .empty before).count 1500000000000000 "key" limit.exactQuota).1
    verdict.allowed = false ∧ verdict.retryAfter = 3 / 2 ∧ verdict.resetAfter = 9 / 2 ∧
      interval = 3 / 2 ∧ verdict.retryAfter ≤ interval ∧
      verdict.resetAfter ≤ limit.burst * interval ∧
      (Reply.clampRemaining verdict.remaining : Int) = verdict.remaining := by
  intro limit one before interval verdict
  have hDenied : verdict.allowed = false := by
    decide +kernel
  obtain ⟨-, -, hRefused, hLossless⟩ := replies_bounded limit (by decide) (by decide) "key" before
    1500000000000000 ⟨by simp [before, one, request], by simp [before, one, request]⟩
  obtain ⟨-, -, hWait, -, hReset⟩ := hRefused hDenied
  exact ⟨hDenied, by decide +kernel, by decide +kernel, by decide +kernel, hWait, hReset,
    hLossless (by decide)⟩

end Gatehouse.Store.Data
