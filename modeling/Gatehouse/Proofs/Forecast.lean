import Gatehouse.Proofs.Persistence

/-! What the store foretells. Whoever is admitted is told how many more requests would be, and when all
are forgotten, and whoever is refused, how long that lasts. All of this comes true, whatever is done
under other keys in the meantime. -/
namespace Gatehouse.Store.Data

open RateLimit RateLimit.Limit

variable {data other : Data ℚ} {limit : Limit} {key : String} {now later : Int}

/-- A request that counts under a limit. -/
def request (limit : Limit) (key : String) (time : Int) : Visit :=
  ⟨time, key, .count limit.exactQuota⟩

/-! ## Requests at the same instant -/

/-- An admitted request leaves the next one at the same instant the room of one less. -/
theorem roomAt_count (hInterval : 0 < limit.exactQuota.interval)
    (hRoom : 0 ≤ data.roomAt now key limit.exactQuota) :
    (data.count now key limit.exactQuota).2.roomAt now key limit.exactQuota =
      data.roomAt now key limit.exactQuota - 1 := by
  obtain ⟨-, -, hNext⟩ | ⟨hNegative, -⟩ := count_spec data key now _ hInterval
  · have hAhead : Gcra.clock now ≤ data.arrivalAt now key + limit.exactQuota.interval := by
      linarith [clock_le_arrivalAt data now key]
    unfold roomAt
    rw [hNext, max_eq_left hAhead, Gcra.room_add_interval hInterval]
  · exact absurd hRoom hNegative.not_ge

/-- All that is done under a key are requests at one instant. -/
def AtOnce (limit : Limit) (key : String) (now : Int) (visits : List Visit) : Prop :=
  ∀ visit ∈ visits, visit.key = key → visit.time = now ∧ visit.deed = .count limit.exactQuota

/-- Requests that come at one instant find the room of one less each, as long as there is room. -/
theorem roomAt_visitAll (hInterval : 0 < limit.exactQuota.interval) (visits : List Visit)
    (hVisits : AtOnce limit key now visits)
    (hRoom : (visits.countP (·.key = key) : ℚ) ≤ data.roomAt now key limit.exactQuota + 1) :
    (data.visitAll visits).roomAt now key limit.exactQuota =
      data.roomAt now key limit.exactQuota - visits.countP (·.key = key) := by
  induction visits generalizing data with
  | nil => simp [visitAll]
  | cons visit rest ih =>
      have hRest : AtOnce limit key now rest :=
        fun other hOther => hVisits other (List.mem_cons_of_mem _ hOther)
      rw [visitAll_cons]
      by_cases hKey : visit.key = key
      · obtain ⟨hTime, hDeed⟩ := hVisits visit (List.mem_cons_self ..) hKey
        have hCount : ((visit :: rest).countP (·.key = key) : ℚ) = rest.countP (·.key = key) + 1 := by
          simp [hKey]
        have hFits : 0 ≤ data.roomAt now key limit.exactQuota := by
          have hNonneg : (0 : ℚ) ≤ rest.countP (·.key = key) := Nat.cast_nonneg _
          linarith
        have hNext := roomAt_count hInterval hFits
        rw [visit_count hKey hDeed, hTime, ih hRest (by rw [hNext]; linarith), hNext, hCount]
        ring
      · have hSame : (data.visit visit).2.roomAt now key limit.exactQuota =
            data.roomAt now key limit.exactQuota := by
          unfold roomAt
          rw [arrivalAt_congr (get?_visit_of_ne data hKey now)]
        have hCount : (visit :: rest).countP (·.key = key) = rest.countP (·.key = key) := by
          simp [hKey]
        rw [hCount] at hRoom ⊢
        rw [ih hRest (hSame ▸ hRoom), hSame]

/-- What is told to remain is the whole part of the room. -/
theorem exists_remaining (hInterval : 0 < limit.exactQuota.interval)
    (hAllowed : (data.count now key limit.exactQuota).1.allowed = true) :
    ∃ m : ℕ, (data.count now key limit.exactQuota).1.remaining = m ∧
      ⌊data.roomAt now key limit.exactQuota⌋ = m := by
  obtain ⟨hRoom, hAnswer, -⟩ := count_of_allowed hInterval hAllowed
  have hFloor : 0 ≤ ⌊data.roomAt now key limit.exactQuota⌋ := Int.floor_nonneg.mpr hRoom
  obtain ⟨m, hm⟩ := Int.eq_ofNat_of_zero_le hFloor
  exact ⟨m, (congrArg Gcra.Answer.remaining hAnswer).trans hm, hm⟩

/-- As many more requests are admitted at the same instant as are told to remain, and no more. -/
theorem remaining_as_told (hInterval : 0 < limit.exactQuota.interval) {m : ℕ}
    (hRemaining : ⌊data.roomAt now key limit.exactQuota⌋ = m) {more : List Visit}
    (hMore : AtOnce limit key now more) {others : ℕ}
    (hOthers : more.countP (·.key = key) = others) :
    let verdict := (((data.count now key limit.exactQuota).2.visitAll more).count now key
      limit.exactQuota).1
    (others < m → verdict.allowed = true ∧ verdict.remaining = m - 1 - others) ∧
    (others = m → verdict.allowed = false ∧ 0 < verdict.retryAfter) := by
  intro verdict
  obtain ⟨hLow, hHigh⟩ := Int.floor_eq_iff.mp hRemaining
  rw [Int.cast_natCast] at hLow hHigh
  have hFirst : 0 ≤ data.roomAt now key limit.exactQuota := by
    have hNonneg : (0 : ℚ) ≤ m := Nat.cast_nonneg _
    linarith
  have hNext := roomAt_count hInterval hFirst
  have hRoom (h : others ≤ m) :
      ((data.count now key limit.exactQuota).2.visitAll more).roomAt now key limit.exactQuota =
        data.roomAt now key limit.exactQuota - ((1 + others : ℕ) : ℤ) := by
    have hFits : (others : ℚ) ≤ m := by exact_mod_cast h
    have hAll := roomAt_visitAll hInterval more hMore (by rw [hOthers, hNext]; linarith)
    rw [hAll, hNext, hOthers]
    push_cast
    ring
  obtain ⟨hSome, hAnswer, -⟩ | ⟨hNone, hAnswer, -⟩ := count_spec
    ((data.count now key limit.exactQuota).2.visitAll more) key now _ hInterval
  · refine ⟨fun hFewer => ⟨congrArg Gcra.Answer.allowed hAnswer, ?_⟩, fun hAll => ?_⟩
    · refine (congrArg Gcra.Answer.remaining hAnswer).trans ?_
      dsimp only
      rw [hRoom hFewer.le, Int.floor_sub_intCast, hRemaining]
      omega
    · rw [hRoom hAll.le, hAll] at hSome
      push_cast at hSome
      linarith
  · refine ⟨fun hFewer => ?_, fun hAll => ⟨congrArg Gcra.Answer.allowed hAnswer, ?_⟩⟩
    · have hCast : (others : ℚ) + 1 ≤ m := by exact_mod_cast hFewer
      rw [hRoom hFewer.le] at hNone
      push_cast at hNone
      linarith
    · have hWait : verdict.retryAfter = _ := congrArg Gcra.Answer.retryAfter hAnswer
      rw [hWait]
      exact mul_pos (neg_pos.mpr hNone) hInterval

/-! ## A full quota -/

/-- Under a fresh key the first of a burst is admitted. -/
theorem admitted_of_fresh (hInterval : 0 < limit.exactQuota.interval) (hBurst : 1 ≤ limit.burst)
    (hFresh : data.get? now key = none) :
    (data.count now key limit.exactQuota).1.answer =
      ⟨true, limit.burst - 1, 0, limit.exactQuota.interval⟩ := by
  have hRoom : data.roomAt now key limit.exactQuota = ((limit.burst - 1 : ℤ) : ℚ) := by
    rw [roomAt_of_fresh hFresh]
    push_cast
    rfl
  have hCast : (1 : ℚ) ≤ limit.burst := by exact_mod_cast hBurst
  obtain ⟨-, hAnswer, -⟩ | ⟨hNone, -⟩ := count_spec data key now _ hInterval
  · rw [hAnswer, hRoom, Int.floor_intCast, arrivalAt_of_fresh hFresh, add_sub_cancel_left]
  · rw [hRoom] at hNone
    push_cast at hNone
    linarith

/-- A request is answered as the first one under a fresh key just if no arrival time lies ahead. -/
theorem answer_eq_fresh_iff (hInterval : 0 < limit.exactQuota.interval)
    (hBurst : 1 ≤ limit.burst) :
    (data.count later key limit.exactQuota).1.answer =
        (count .empty later key limit.exactQuota).1.answer ↔
      data.arrivalAt later key = Gcra.clock later := by
  constructor
  · intro hSame
    rw [admitted_of_fresh hInterval hBurst (get?_empty ..)] at hSame
    obtain ⟨-, hAnswer, -⟩ | ⟨-, hAnswer, -⟩ := count_spec data key later _ hInterval
    · have hReset := congrArg Gcra.Answer.resetAfter (hAnswer.symm.trans hSame)
      dsimp only at hReset
      linarith
    · have hDenied := congrArg Gcra.Answer.allowed (hAnswer.symm.trans hSame)
      cases hDenied
  · intro hPassed
    exact answer_congr hInterval (hPassed.trans (arrivalAt_of_fresh (get?_empty ..)).symm)

/-- After an admitted request, and before any other one under its key, the quota is full again just if
the time has passed that was told. -/
theorem reset_as_told (hInterval : 0 < limit.exactQuota.interval)
    (hAllowed : (data.count now key limit.exactQuota).1.allowed = true) {between : List Visit}
    (hBetween : ∀ visit ∈ between, visit.key ≠ key) (later : Int) :
    ((((data.count now key limit.exactQuota).2.visitAll between).count later key
          limit.exactQuota).1.answer = (count .empty later key limit.exactQuota).1.answer ↔
      now + (data.count now key limit.exactQuota).1.resetAfter * 1000000 ≤ later) := by
  obtain ⟨hRoom, hAnswer, hNext⟩ := count_of_allowed hInterval hAllowed
  have hBurst : 1 ≤ limit.burst := by
    have hMost := hRoom.trans (roomAt_le data now key hInterval)
    have hCast : (1 : ℚ) ≤ limit.burst := by
      change (0 : ℚ) ≤ (limit.burst : ℚ) - 1 at hMost
      linarith
    exact_mod_cast hCast
  have hReset : (data.count now key limit.exactQuota).1.resetAfter = _ :=
    congrArg Gcra.Answer.resetAfter hAnswer
  rw [answer_eq_fresh_iff hInterval hBurst,
    arrivalAt_congr (get?_visitAll_of_ne hBetween later), hNext, max_eq_right_iff, hReset]
  dsimp only
  rw [Gcra.clock_eq, Gcra.clock_eq]
  constructor <;> intro h <;> linarith

/-- What an admitted request is told comes true. As many more requests under its key are admitted at
the same instant as are told to remain, and the next one is refused. And if no other one comes, the
quota is as full as under a fresh key just if the time has passed that was told. The first request
under a fresh key is admitted, and all others of its burst remain. -/
theorem quota_as_told (limit : Limit) (hRate : 1 ≤ limit.rate)
    (hPeriod : 0 < limit.period.nanoseconds) (data : Data ℚ) (key : String) (now : Int) :
    let verdict := (data.count now key limit.exactQuota).1
    let next := (data.count now key limit.exactQuota).2
    (verdict.allowed = true → ∃ m : ℕ, verdict.remaining = m ∧
      (∀ more others, AtOnce limit key now more → more.countP (·.key = key) = others →
        let another := ((next.visitAll more).count now key limit.exactQuota).1
        (others < m → another.allowed = true ∧ another.remaining = m - 1 - others) ∧
        (others = m → another.allowed = false ∧ 0 < another.retryAfter)) ∧
      ∀ between later, (∀ visit ∈ between, visit.key ≠ key) →
        (((next.visitAll between).count later key limit.exactQuota).1.answer =
            (count .empty later key limit.exactQuota).1.answer ↔
          now + verdict.resetAfter * 1000000 ≤ later)) ∧
    (data.get? now key = none → 1 ≤ limit.burst →
      verdict.allowed = true ∧ verdict.remaining = limit.burst - 1) := by
  intro verdict next
  have hInterval : 0 < limit.exactQuota.interval := Limit.interval_pos hRate hPeriod
  refine ⟨fun hAllowed => ?_, fun hFresh hBurst => ?_⟩
  · obtain ⟨m, hTold, hRemaining⟩ := exists_remaining hInterval hAllowed
    refine ⟨m, hTold, fun more others hMore hOthers => ?_, fun between later hBetween => ?_⟩
    · exact remaining_as_told hInterval hRemaining hMore hOthers
    · exact reset_as_told hInterval hAllowed hBetween later
  · have hAnswer := admitted_of_fresh hInterval hBurst hFresh
    exact ⟨congrArg Gcra.Answer.allowed hAnswer, congrArg Gcra.Answer.remaining hAnswer⟩

/-- Two requests in three seconds, three at once. Three quarters of a second after the first one another
is admitted, and told that one more would be and that the quota is full again after two seconds and a
quarter. So one more is admitted then, but not two, and the quota is full at that time and not before. -/
theorem quota_of_three_as_told :
    let limit : Limit := ⟨2, 3, .ofSeconds 3⟩
    let data : Data ℚ := visitAll .empty [request limit "key" 1500000000250000]
    let verdict := (data.count 1500000001000000 "key" limit.exactQuota).1
    let next := (data.count 1500000001000000 "key" limit.exactQuota).2
    let more := [⟨1500000001000000, "other", .delete⟩, request limit "key" 1500000001000000]
    verdict.allowed = true ∧ verdict.remaining = 1 ∧ verdict.resetAfter = 9 / 4 ∧
      ((next.visitAll more).count 1500000001000000 "key" limit.exactQuota).1.allowed = false ∧
      (next.count 1500000003250000 "key" limit.exactQuota).1.answer =
        (count .empty 1500000003250000 "key" limit.exactQuota).1.answer ∧
      (next.count 1500000003249999 "key" limit.exactQuota).1.answer ≠
        (count .empty 1500000003249999 "key" limit.exactQuota).1.answer := by
  intro limit data verdict next more
  have hAllowed : verdict.allowed = true := by
    decide +kernel
  have hRemaining : verdict.remaining = 1 := by
    decide +kernel
  have hReset : verdict.resetAfter = 9 / 4 := by
    decide +kernel
  obtain ⟨m, hTold, hMore, hFull⟩ := (quota_as_told limit (by decide) (by decide) data "key"
    1500000001000000).1 hAllowed
  have hOne : 1 = m := by exact_mod_cast hRemaining.symm.trans hTold
  refine ⟨hAllowed, hRemaining, hReset, ?_, ?_, ?_⟩
  · exact ((hMore more 1 (by simp [AtOnce, more, request]) (by simp [more, request])).2 hOne).1
  · exact (hFull [] 1500000003250000 (by simp)).mpr (by rw [hReset]; norm_num)
  · refine fun hSame => ?_
    have hLater := (hFull [] 1500000003249999 (by simp)).mp hSame
    rw [hReset] at hLater
    norm_num at hLater

/-! ## A wait -/

theorem allowed_iff_room (data : Data ℚ) (now : Int) (key : String)
    (hInterval : 0 < limit.exactQuota.interval) :
    (data.count now key limit.exactQuota).1.allowed = true ↔
      0 ≤ data.roomAt now key limit.exactQuota := by
  obtain ⟨hRoom, hAnswer, -⟩ | ⟨hNone, hAnswer, -⟩ := count_spec data key now _ hInterval
  · exact iff_of_true (congrArg Gcra.Answer.allowed hAnswer) hRoom
  · have hDenied : (data.count now key limit.exactQuota).1.allowed = false :=
      congrArg Gcra.Answer.allowed hAnswer
    exact iff_of_false (Bool.eq_false_iff.mp hDenied) hNone.not_ge

/-- Where none may come at once, none is ever admitted. -/
theorem refused_of_no_burst (hInterval : 0 < limit.exactQuota.interval) (hBurst : limit.burst = 0)
    (data : Data ℚ) (now : Int) (key : String) :
    (data.count now key limit.exactQuota).1.allowed = false := by
  have hMost := roomAt_le data now key hInterval
  change _ ≤ (limit.burst : ℚ) - 1 at hMost
  rw [hBurst] at hMost
  push_cast at hMost
  refine Bool.eq_false_iff.mpr fun hAllowed => ?_
  have hRoom := (allowed_iff_room data now key hInterval).mp hAllowed
  linarith

/-- There is room again just if the wait is over, for as long as the arrival time stays what it is. -/
theorem room_iff_waited (hInterval : 0 < limit.exactQuota.interval) (hBurst : 1 ≤ limit.burst)
    (hKept : other.arrivalAt later key = max (data.arrivalAt now key) (Gcra.clock later)) :
    0 ≤ other.roomAt later key limit.exactQuota ↔
      Gcra.clock now + -data.roomAt now key limit.exactQuota * limit.exactQuota.interval ≤
        Gcra.clock later := by
  have hWait : Gcra.clock now + -data.roomAt now key limit.exactQuota * limit.exactQuota.interval =
      data.arrivalAt now key - (limit.burst - 1) * limit.exactQuota.interval := by
    unfold roomAt Gcra.room
    change _ + -((limit.burst : ℚ) - 1 - _) * _ = _
    field_simp
    ring
  have hReach : 0 ≤ other.roomAt later key limit.exactQuota ↔
      max (data.arrivalAt now key) (Gcra.clock later) - Gcra.clock later ≤
        (limit.burst - 1) * limit.exactQuota.interval := by
    unfold roomAt Gcra.room
    rw [hKept, sub_nonneg, div_le_iff₀ hInterval]
    rfl
  have hSpan : 0 ≤ ((limit.burst : ℚ) - 1) * limit.exactQuota.interval := by
    have hCast : (1 : ℚ) ≤ limit.burst := by exact_mod_cast hBurst
    exact mul_nonneg (by linarith) hInterval.le
  rw [hReach, hWait]
  rcases le_total (data.arrivalAt now key) (Gcra.clock later) with hPassed | hAhead
  · rw [max_eq_right hPassed]
    exact iff_of_true (by linarith) (by linarith)
  · rw [max_eq_left hAhead]
    constructor <;> intro h <;> linarith

/-- What a refused request is told comes true, whatever else the server is asked. It has to wait, and
has changed nothing. As long as no other one is admitted under its key, the next one is just if the
wait is over; and where none may come at once, none ever is. -/
theorem wait_as_told (limit : Limit) (hRate : 1 ≤ limit.rate)
    (hPeriod : 0 < limit.period.nanoseconds) (key : String) (before between : List Visit)
    (now later : Int)
    (hRun : Orderly limit key
      (before ++ request limit key now :: (between ++ [request limit key later]))) :
    let data := visitAll .empty before
    let verdict := (data.count now key limit.exactQuota).1
    let next := (data.count now key limit.exactQuota).2
    let again := ((next.visitAll between).count later key limit.exactQuota).1
    (verdict.allowed = false → 0 < verdict.retryAfter ∧ next = data ∧
      ((∀ visit ∈ next.admitted between, visit.key ≠ key) → 1 ≤ limit.burst →
        (again.allowed = true ↔ now + verdict.retryAfter * 1000000 ≤ later))) ∧
    (limit.burst = 0 → verdict.allowed = false ∧ again.allowed = false) := by
  have hInterval : 0 < limit.exactQuota.interval := Limit.interval_pos hRate hPeriod
  have hTail := List.pairwise_cons.mp hRun.right.times
  have hBefore : ∀ visit ∈ before, visit.time ≤ now := fun visit hVisit =>
    (List.pairwise_append.mp hRun.times).2.2 visit hVisit (request limit key now) (by simp)
  have hLater : now ≤ later := hTail.1 (request limit key later) (by simp)
  have hBetween : ∀ visit ∈ between, visit.key = key → visit.deed = .count limit.exactQuota :=
    fun visit hVisit => hRun.deeds visit (by simp [hVisit])
  intro data verdict next again
  refine ⟨fun hDenied => ?_, fun hBurst =>
    ⟨refused_of_no_burst hInterval hBurst .., refused_of_no_burst hInterval hBurst ..⟩⟩
  have hLasts : Lasts data key now := hRun.left.lasts hInterval hBefore
  obtain ⟨-, hAnswer, -⟩ | ⟨hNone, hAnswer, hSame⟩ := count_spec data key now _ hInterval
  · have hAllowed := congrArg Gcra.Answer.allowed hAnswer
    exact absurd (hDenied.symm.trans hAllowed) Bool.false_ne_true
  have hWait : verdict.retryAfter = _ := congrArg Gcra.Answer.retryAfter hAnswer
  rw [hWait]
  refine ⟨mul_pos (neg_pos.mpr hNone) hInterval, hSame, fun hRefused hBurst => ?_⟩
  have hKept : (next.visitAll between).arrivalAt later key =
      max (data.arrivalAt now key) (Gcra.clock later) := by
    rw [arrivalAt_congr (get?_visitAll_of_refused hInterval hBetween hRefused later)]
    exact hSame ▸ hLasts later hLater
  rw [allowed_iff_room _ _ _ hInterval, room_iff_waited hInterval hBurst hKept, Gcra.clock_eq,
    Gcra.clock_eq]
  dsimp only
  constructor <;> intro h <;> linarith

/-- Two requests in three seconds, one at once. Of two at once the second has to wait for a second and
a half. That is so even after another one has been refused a second later, and the key of someone
else has been deleted. -/
theorem wait_of_tight_limit_as_told :
    let limit : Limit := ⟨2, 1, .ofSeconds 3⟩
    let before := [request limit "key" 1500000000000000]
    let between := [request limit "key" 1500000001000000, ⟨1500000001200000, "other", .delete⟩]
    let data : Data ℚ := visitAll .empty before
    let verdict := (data.count 1500000000000000 "key" limit.exactQuota).1
    let next := (data.count 1500000000000000 "key" limit.exactQuota).2
    verdict.allowed = false ∧ verdict.retryAfter = 3 / 2 ∧ 0 < verdict.retryAfter ∧ next = data ∧
      ((next.visitAll between).count 1500000001500000 "key" limit.exactQuota).1.allowed = true ∧
      ((next.visitAll between).count 1500000001499999 "key" limit.exactQuota).1.allowed = false := by
  intro limit before between data verdict next
  have hDenied : verdict.allowed = false := by
    decide +kernel
  have hWait : verdict.retryAfter = 3 / 2 := by
    decide +kernel
  have hTold (later : Int) (hLater : 1500000001200000 ≤ later) := (wait_as_told limit (by decide)
    (by decide) "key" before between 1500000000000000 later
    ⟨by simpa [before, between, request] using ⟨by omega, by omega⟩,
      by simp [before, between, request]⟩).1 hDenied
  have hRefused : ∀ visit ∈ next.admitted between,
      visit.key ≠ "key" := by
    decide +kernel
  obtain ⟨hPositive, hSame, hAgain⟩ := hTold 1500000001500000 (by decide)
  obtain ⟨-, -, hEarly⟩ := hTold 1500000001499999 (by decide)
  refine ⟨hDenied, hWait, hPositive, hSame, ?_, ?_⟩
  · exact (hAgain hRefused (by decide)).mpr (by rw [hWait]; norm_num)
  · refine Bool.eq_false_iff.mpr fun hAllowed => ?_
    have hLater := (hEarly hRefused (by decide)).mp hAllowed
    rw [hWait] at hLater
    norm_num at hLater

end Gatehouse.Store.Data
