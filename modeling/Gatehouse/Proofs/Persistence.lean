import Gatehouse.Proofs.AdmissionBound

/-! What becomes of an arrival time. The number of requests that still fit in decides on a request, and
an admitted one takes the room of one. What is kept is seen for as long as it has not passed, so along
a run the arrival time of a key is the kept one or the present, whether or not its entry is still
there. -/
namespace Gatehouse.RateLimit.Gcra

variable {quota : Quota ℚ} {now tat : ℚ} {kept : Option ℚ}

/-- What the service is told of a verdict. -/
structure Answer where
  allowed : Bool
  remaining : Int
  retryAfter : ℚ
  resetAfter : ℚ

def Verdict.answer (verdict : Verdict ℚ) : Answer :=
  ⟨verdict.allowed, verdict.remaining, verdict.retryAfter, verdict.resetAfter⟩

/-- How many more requests can be admitted at once after this one, in parts of a request. It is below
zero if not even this one can be. -/
def room (quota : Quota ℚ) (now tat : ℚ) : ℚ :=
  quota.burst - 1 - (tat - now) / quota.interval

/-- One request takes the room of one. -/
theorem room_add_interval (hInterval : 0 < quota.interval) (now tat : ℚ) :
    room quota now (tat + quota.interval) = room quota now tat - 1 := by
  unfold room
  field_simp
  ring

/-- A client that was not counted has room for the whole burst, of which the request takes one. -/
theorem room_self (quota : Quota ℚ) (now : ℚ) : room quota now now = quota.burst - 1 := by
  simp [room]

/-- The room of the script is a quotient by the interval. -/
theorem room_eq_div (hInterval : 0 < quota.interval) (now tat : ℚ) :
    (now - (tat + quota.interval - quota.interval * quota.burst)) / quota.interval =
      room quota now tat := by
  unfold room
  field_simp
  ring

/-- A request is admitted if there is room for it, and otherwise refused until there is. -/
theorem answer_verdict (hInterval : 0 < quota.interval) (now : ℚ) (kept : Option ℚ) :
    (verdict quota now kept).answer =
      if room quota now (arrival now kept) < 0 then
        ⟨false, 0, -room quota now (arrival now kept) * quota.interval, arrival now kept - now⟩
      else
        ⟨true, ⌊room quota now (arrival now kept)⌋, 0,
          arrival now kept + quota.interval - now⟩ := by
  let tat := arrival now kept
  let early := now - (tat + quota.interval - quota.interval * quota.burst)
  have hAnswer : (verdict quota now kept).answer =
      if decide (early / quota.interval < ((0 : ℕ) : ℚ)) = true then
        ⟨false, 0, early * (((0 : ℕ) : ℚ) - ((1 : ℕ) : ℚ)), tat - now⟩
      else ⟨true, ⌊early / quota.interval⌋, ((0 : ℕ) : ℚ), tat + quota.interval - now⟩ :=
    apply_ite Verdict.answer ..
  have hRoom : early / quota.interval = room quota now tat := room_eq_div hInterval now tat
  have hWait : early * (((0 : ℕ) : ℚ) - ((1 : ℕ) : ℚ)) =
      -room quota now tat * quota.interval := by
    rw [← hRoom, neg_mul, div_mul_cancel₀ early hInterval.ne']
    push_cast
    ring
  rw [hAnswer, hRoom, hWait]
  simp only [Nat.cast_zero, decide_eq_true_eq]
  rfl

/-- All that a verdict says: of a request that is admitted, the arrival time that it makes is kept up to
itself, and of one that is refused nothing is. -/
theorem verdict_spec (hInterval : 0 < quota.interval) (now : ℚ) (kept : Option ℚ) :
    (0 ≤ room quota now (arrival now kept) ∧
      (verdict quota now kept).answer = ⟨true, ⌊room quota now (arrival now kept)⌋, 0,
        arrival now kept + quota.interval - now⟩ ∧
      (verdict quota now kept).keep = some (arrival now kept + quota.interval,
        (arrival now kept + quota.interval - now).ceil)) ∨
    (room quota now (arrival now kept) < 0 ∧
      (verdict quota now kept).answer = ⟨false, 0,
        -room quota now (arrival now kept) * quota.interval, arrival now kept - now⟩ ∧
      (verdict quota now kept).keep = none) := by
  have hAnswer := answer_verdict hInterval now kept
  have hAllowed : (verdict quota now kept).answer.allowed = (verdict quota now kept).allowed := rfl
  obtain ⟨hAdmits, -, hKeep⟩ | ⟨hDenies, -, hKeep⟩ := verdict_cases quota hInterval now kept
  · split at hAnswer
    · rw [hAnswer, hAdmits] at hAllowed
      cases hAllowed
    · next hRoom => exact .inl ⟨not_lt.mp hRoom, hAnswer, hKeep⟩
  · split at hAnswer
    · next hRoom => exact .inr ⟨hRoom, hAnswer, hKeep⟩
    · rw [hAnswer, hDenies] at hAllowed
      cases hAllowed

end Gatehouse.RateLimit.Gcra

namespace Gatehouse.Store.Data

open RateLimit RateLimit.Limit

variable {data : Data ℚ} {limit : Limit} {key : String} {now later : Int} {quota : Gcra.Quota ℚ}

/-! ## One request -/

theorem clock_le_clock (h : now ≤ later) : (Gcra.clock now : ℚ) ≤ Gcra.clock later :=
  not_lt.mp fun hLess => (clock_lt_iff.mp hLess).not_ge h

/-- The room that a request under a key finds. -/
def roomAt (data : Data ℚ) (now : Int) (key : String) (quota : Gcra.Quota ℚ) : ℚ :=
  Gcra.room quota (Gcra.clock now) (data.arrivalAt now key)

/-- An arrival time that is kept up to itself counts until it has passed. -/
theorem arrivalAt_keep (data : Data ℚ) (key : String) (now later : Int) (time : ℚ) :
    arrivalAt (data.setFor now key (.arrival time) (time - Gcra.clock now).ceil.toNat) later key =
      max time (Gcra.clock later) := by
  refine le_antisymm ?_ (max_le (arrivalAt_setFor ..) (clock_le_arrivalAt ..))
  unfold arrivalAt KeyValue.setFor
  rw [KeyValue.get?_insert_self]
  split
  · exact (Gcra.arrival_some ..).le
  · exact le_max_right ..

/-- All that one request does. If there is room for it, it is admitted, and the arrival time of its key
moves on by an interval; if not, nothing is changed. -/
theorem count_spec (data : Data ℚ) (key : String) (now : Int) (quota : Gcra.Quota ℚ)
    (hInterval : 0 < quota.interval) :
    (0 ≤ data.roomAt now key quota ∧
      (data.count now key quota).1.answer = ⟨true, ⌊data.roomAt now key quota⌋, 0,
        data.arrivalAt now key + quota.interval - Gcra.clock now⟩ ∧
      ∀ later, (data.count now key quota).2.arrivalAt later key =
        max (data.arrivalAt now key + quota.interval) (Gcra.clock later)) ∨
    (data.roomAt now key quota < 0 ∧
      (data.count now key quota).1.answer = ⟨false, 0, -data.roomAt now key quota * quota.interval,
        data.arrivalAt now key - Gcra.clock now⟩ ∧
      (data.count now key quota).2 = data) := by
  rw [count_verdict]
  obtain ⟨hRoom, hAnswer, hKeep⟩ | ⟨hRoom, hAnswer, hKeep⟩ := Gcra.verdict_spec hInterval
    (Gcra.clock now) ((data.get? now key).bind Stored.arrival?)
  · refine .inl ⟨hRoom, hAnswer, fun later => ?_⟩
    unfold count
    simp only [hKeep]
    exact arrivalAt_keep ..
  · refine .inr ⟨hRoom, hAnswer, ?_⟩
    unfold count
    simp only [hKeep]

/-- A request that is allowed is told the room that it leaves, and moves the arrival time on by one
interval. -/
theorem count_of_allowed (hInterval : 0 < quota.interval)
    (hAllowed : (data.count now key quota).1.allowed = true) :
    0 ≤ data.roomAt now key quota ∧
      (data.count now key quota).1.answer = ⟨true, ⌊data.roomAt now key quota⌋, 0,
        data.arrivalAt now key + quota.interval - Gcra.clock now⟩ ∧
      ∀ later, (data.count now key quota).2.arrivalAt later key =
        max (data.arrivalAt now key + quota.interval) (Gcra.clock later) := by
  obtain hAdmits | ⟨-, hAnswer, -⟩ := count_spec data key now quota hInterval
  · exact hAdmits
  · have hDenied := congrArg Gcra.Answer.allowed hAnswer
    exact absurd (hDenied.symm.trans hAllowed) Bool.false_ne_true

/-- A request that is denied is told what is missing, and leaves the data as they are. -/
theorem count_of_denied (hInterval : 0 < quota.interval)
    (hDenied : (data.count now key quota).1.allowed = false) :
    data.roomAt now key quota < 0 ∧
      (data.count now key quota).1.answer = ⟨false, 0, -data.roomAt now key quota * quota.interval,
        data.arrivalAt now key - Gcra.clock now⟩ ∧
      (data.count now key quota).2 = data := by
  obtain ⟨-, hAnswer, -⟩ | hDenies := count_spec data key now quota hInterval
  · have hAllowed := congrArg Gcra.Answer.allowed hAnswer
    exact absurd (hDenied.symm.trans hAllowed) Bool.false_ne_true
  · exact hDenies

/-- Only the arrival time of its key decides on a request. -/
theorem answer_congr {data other : Data ℚ} (hInterval : 0 < quota.interval)
    (h : data.arrivalAt now key = other.arrivalAt now key) :
    (data.count now key quota).1.answer = (other.count now key quota).1.answer := by
  rw [count_verdict, count_verdict, Gcra.answer_verdict hInterval, Gcra.answer_verdict hInterval]
  change data.arrivalAt now key = other.arrivalAt now key at h
  unfold arrivalAt at h
  rw [h]

theorem get?_empty (now : Int) (key : String) : (.empty : Data ℚ).get? now key = none := rfl

theorem arrivalAt_of_fresh (h : data.get? now key = none) :
    data.arrivalAt now key = Gcra.clock now := by
  unfold arrivalAt
  rw [h]
  rfl

/-- Where nothing is kept there is the whole burst. -/
theorem roomAt_of_fresh (h : data.get? now key = none) :
    data.roomAt now key quota = quota.burst - 1 := by
  unfold roomAt
  rw [arrivalAt_of_fresh h, Gcra.room_self]

/-- No request finds more room than under a fresh key. -/
theorem roomAt_le (data : Data ℚ) (now : Int) (key : String) (hInterval : 0 < quota.interval) :
    data.roomAt now key quota ≤ quota.burst - 1 := by
  have hAhead : 0 ≤ data.arrivalAt now key - Gcra.clock now :=
    sub_nonneg.mpr (clock_le_arrivalAt ..)
  have hTaken := div_nonneg hAhead hInterval.le
  unfold roomAt Gcra.room
  linarith

/-! ## Runs -/

/-- The data after all visits are made in order. -/
def visitAll (data : Data ℚ) (visits : List Visit) : Data ℚ :=
  visits.foldl (fun data visit => (data.visit visit).2) data

theorem visitAll_cons (data : Data ℚ) (visit : Visit) (rest : List Visit) :
    data.visitAll (visit :: rest) = (data.visit visit).2.visitAll rest := rfl

/-- A visit that counts is decided as a count. -/
theorem visit_count {visit : Visit} (hKey : visit.key = key) (hDeed : visit.deed = .count quota) :
    data.visit visit = ((data.count visit.time key quota).1.allowed,
      (data.count visit.time key quota).2) := by
  unfold Data.visit
  rw [hDeed, hKey]

theorem visitAll_concat (data : Data ℚ) (visits : List Visit) (last : Visit) :
    data.visitAll (visits ++ [last]) = ((data.visitAll visits).visit last).2 :=
  List.foldl_concat ..

/-- Visits to other keys do not show. -/
theorem get?_visitAll_of_ne {visits : List Visit} (h : ∀ visit ∈ visits, visit.key ≠ key)
    (later : Int) : (data.visitAll visits).get? later key = data.get? later key := by
  induction visits generalizing data with
  | nil => rfl
  | cons visit rest ih =>
      rw [visitAll_cons, ih fun other hOther => h other (List.mem_cons_of_mem _ hOther)]
      exact get?_visit_of_ne data (h visit (List.mem_cons_self ..)) later

/-- Visits one after another, of which those under a key are requests that count under a limit. -/
structure Orderly (limit : Limit) (key : String) (visits : List Visit) : Prop where
  times : visits.Pairwise fun earlier later => earlier.time ≤ later.time
  deeds : ∀ visit ∈ visits, visit.key = key → visit.deed = .count limit.exactQuota

theorem Orderly.left {first rest : List Visit} (h : Orderly limit key (first ++ rest)) :
    Orderly limit key first :=
  ⟨(List.pairwise_append.mp h.times).1, fun visit hVisit => h.deeds visit (by simp [hVisit])⟩

theorem Orderly.right {first rest : List Visit} (h : Orderly limit key (first ++ rest)) :
    Orderly limit key rest :=
  ⟨(List.pairwise_append.mp h.times).2.1, fun visit hVisit => h.deeds visit (by simp [hVisit])⟩

/-- What holds of an empty store, stays true as time goes by and is kept by every visit holds after a
run. -/
theorem Orderly.holds (P : Data ℚ → Int → Prop) (hEmpty : ∀ now, P .empty now)
    (hLasts : ∀ data now later, now ≤ later → P data now → P data later)
    (hVisit : ∀ data (visit : Visit), (visit.key = key → visit.deed = .count limit.exactQuota) →
      P data visit.time → P (data.visit visit).2 visit.time)
    {visits : List Visit} (h : Orderly limit key visits) {now : Int}
    (hNow : ∀ visit ∈ visits, visit.time ≤ now) : P (visitAll .empty visits) now := by
  -- The last visit is looked at first: all others were made before it.
  induction visits using List.reverseRecOn generalizing now with
  | nil => exact hEmpty now
  | append_singleton visits last ih =>
      have hBefore : ∀ visit ∈ visits, visit.time ≤ last.time := fun visit hVisit =>
        (List.pairwise_append.mp h.times).2.2 visit hVisit last (List.mem_singleton_self _)
      have hLast := hVisit _ last (h.deeds last (by simp)) (ih h.left hBefore)
      rw [visitAll_concat]
      exact hLasts _ _ _ (hNow last (by simp)) hLast

/-- What is kept under a key counts until it has passed. -/
def Lasts (data : Data ℚ) (key : String) (now : Int) : Prop :=
  ∀ later, now ≤ later →
    data.arrivalAt later key = max (data.arrivalAt now key) (Gcra.clock later)

theorem lasts_empty (key : String) (now : Int) : Lasts .empty key now := by
  intro later hLater
  rw [arrivalAt_of_fresh (get?_empty ..), arrivalAt_of_fresh (get?_empty ..),
    max_eq_right (clock_le_clock hLater)]

/-- What lasts from now on lasts from later on. -/
theorem Lasts.mono {time : Int} (h : Lasts data key now) (hTime : now ≤ time) :
    Lasts data key time := by
  intro later hLater
  rw [h later (hTime.trans hLater), h time hTime, max_assoc, max_eq_right (clock_le_clock hLater)]

theorem Lasts.congr {data other : Data ℚ} (h : Lasts data key now)
    (hSame : ∀ later, other.arrivalAt later key = data.arrivalAt later key) :
    Lasts other key now := by
  intro later hLater
  rw [hSame, hSame, h later hLater]

/-- An arrival time is kept long enough to last until the next visit. -/
theorem Lasts.visit (hInterval : 0 < limit.exactQuota.interval) {visit : Visit}
    (h : Lasts data key visit.time)
    (hDeed : visit.key = key → visit.deed = .count limit.exactQuota) :
    Lasts (data.visit visit).2 key visit.time := by
  by_cases hKey : visit.key = key
  · rw [visit_count hKey (hDeed hKey)]
    obtain ⟨-, -, hNext⟩ | ⟨-, -, hSame⟩ := count_spec data key visit.time _ hInterval
    · intro later hLater
      rw [hNext, hNext, max_assoc, max_eq_right (clock_le_clock hLater)]
    · rw [hSame]
      exact h
  · exact h.congr fun later => arrivalAt_congr (get?_visit_of_ne data hKey later)

/-- Along a run what is kept under a key always counts until it has passed. -/
theorem Orderly.lasts (hInterval : 0 < limit.exactQuota.interval) {visits : List Visit}
    (h : Orderly limit key visits) {now : Int} (hNow : ∀ visit ∈ visits, visit.time ≤ now) :
    Lasts (visitAll .empty visits) key now :=
  h.holds (fun data now => Lasts data key now) (lasts_empty key)
    (fun _ _ _ hLater hLasts => hLasts.mono hLater)
    (fun _ _ hDeed hLasts => hLasts.visit hInterval hDeed) hNow

/-! ## Refusals -/

/-- If nobody is admitted for a key, the first visit to it was refused, and the rest is alike. -/
theorem refused_of_cons {visit : Visit} {rest : List Visit}
    (h : ∀ other ∈ data.admitted (visit :: rest), other.key ≠ key) :
    (visit.key = key → (data.visit visit).1 = false) ∧
      ∀ other ∈ (data.visit visit).2.admitted rest, other.key ≠ key := by
  rw [admitted] at h
  dsimp only at h
  split at h
  · exact ⟨fun hKey => absurd hKey (h visit (List.mem_cons_self ..)),
      fun other hOther => h other (List.mem_cons_of_mem _ hOther)⟩
  · next hRefused => exact ⟨fun _ => Bool.eq_false_iff.mpr hRefused, h⟩

/-- A visit that is refused does not show either. -/
theorem get?_visit_of_refused (hInterval : 0 < limit.exactQuota.interval) {visit : Visit}
    (hDeed : visit.key = key → visit.deed = .count limit.exactQuota)
    (hRefused : visit.key = key → (data.visit visit).1 = false) (later : Int) :
    (data.visit visit).2.get? later key = data.get? later key := by
  by_cases hKey : visit.key = key
  · have hDenied := hRefused hKey
    rw [visit_count hKey (hDeed hKey)] at hDenied ⊢
    obtain ⟨hAllowed, -⟩ | ⟨-, hSame⟩ := count_cases data key visit.time _ hInterval
    · exact absurd (hDenied.symm.trans hAllowed) Bool.false_ne_true
    · rw [hSame]
  · exact get?_visit_of_ne data hKey later

/-- Under a key where nothing is admitted, everything stays as it is. -/
theorem get?_visitAll_of_refused (hInterval : 0 < limit.exactQuota.interval)
    {visits : List Visit}
    (hDeeds : ∀ visit ∈ visits, visit.key = key → visit.deed = .count limit.exactQuota)
    (hRefused : ∀ visit ∈ data.admitted visits, visit.key ≠ key) (later : Int) :
    (data.visitAll visits).get? later key = data.get? later key := by
  induction visits generalizing data with
  | nil => rfl
  | cons visit rest ih =>
      obtain ⟨hFirst, hRest⟩ := refused_of_cons hRefused
      have hDeeds' : ∀ other ∈ rest, other.key = key → other.deed = .count limit.exactQuota :=
        fun other hOther => hDeeds other (List.mem_cons_of_mem _ hOther)
      exact (ih hDeeds' hRest).trans
        (get?_visit_of_refused hInterval (hDeeds visit (List.mem_cons_self ..)) hFirst later)

end Gatehouse.Store.Data
