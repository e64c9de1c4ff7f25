import Gatehouse.Pipeline.Stages

/-! When the full quota is back, as a client is told. The milliseconds until then are added to those of
the clock, in 64 bits. Where they are more than 64 bits hold, half of what these hold is added instead. But
there are durations that 64 bits hold, and their sums with the clock they do not: there the addition breaks
off, and with it the telling of the quota. -/
namespace Gatehouse.Pipeline

variable {now : Int} {resetAfter : Duration}

/-! ## Sums in 64 bits -/

/-- A number that 64 bits hold, with its sign. -/
def Fits (n : Int) : Prop :=
  Text.minI64 ≤ n ∧ n ≤ Text.maxI64

/-- The milliseconds of a duration fit, but not their sum with those of the clock. -/
def Overflows (now : Int) (resetAfter : Duration) : Prop :=
  (resetAfter.millis : Int) ≤ Text.maxI64 ∧ Text.maxI64 < now + resetAfter.millis

/-- What the addition says when it breaks off. -/
def overflowPanic : Panic := .text "attempt to add with overflow"

/-- Times of 64 bits are taken as they are. -/
theorem resetMillis_of_le (h : (resetAfter.millis : Int) ≤ Text.maxI64) :
    resetMillis resetAfter = resetAfter.millis :=
  if_pos h

theorem resetMillis_nonneg (resetAfter : Duration) : 0 ≤ resetMillis resetAfter := by
  unfold resetMillis
  split
  · exact Int.natCast_nonneg _
  · decide

/-- What is added in place of a duration that does not fit is little enough for every clock that can be
read. -/
theorem fits_iff (hEpoch : 0 ≤ now) (hLast : now ≤ Clock.last) :
    Fits (now + resetMillis resetAfter) ↔ ¬ Overflows now resetAfter := by
  have hNonneg := resetMillis_nonneg resetAfter
  unfold resetMillis at hNonneg ⊢
  unfold Fits Overflows
  unfold Clock.last at hLast
  split
  · next hHeld =>
    rw [if_pos hHeld] at hNonneg
    constructor
    · rintro ⟨-, hSum⟩ ⟨-, hAbove⟩
      exact absurd hSum (Int.not_le.mpr hAbove)
    · intro h
      exact ⟨by unfold Text.minI64; omega, Int.not_lt.mp fun hAbove => h ⟨hHeld, hAbove⟩⟩
  · next hLong =>
    refine iff_of_true ?_ fun h => hLong h.1
    unfold Text.minI64 Text.maxI64
    omega

/-! ## Seconds -/

/-- Where the sum fits, the second is that of the exact sum. -/
theorem resetSecond_of_fits (hEpoch : 0 ≤ now) (h : Fits (now + resetMillis resetAfter)) :
    resetSecond now resetAfter = .ok ((now + resetMillis resetAfter) / 1000) := by
  have hNonneg := resetMillis_nonneg resetAfter
  rw [resetSecond, if_neg (Int.not_lt.mpr h.2), Int.tdiv_eq_ediv_of_nonneg (by omega)]

/-- Where it does not, there is no second but a panic. -/
theorem resetSecond_of_overflows (h : Overflows now resetAfter) :
    resetSecond now resetAfter = .error overflowPanic := by
  rw [resetSecond, resetMillis_of_le h.1, if_pos h.2]
  rfl

/-- At every clock that can be read, and for durations of any length: 64 bits hold the sum unless the
milliseconds of the duration fit and leave no room for those of the clock. Just then there is a second
to tell, it is not one of the past, and where the exact sum fits it is the second of that. Otherwise
the addition breaks off. -/
theorem reset_ahead_unless_overflows (now : Int) (resetAfter : Duration) (hEpoch : 0 ≤ now)
    (hLast : now ≤ Clock.last) :
    (Fits (now + resetMillis resetAfter) ↔ ¬ Overflows now resetAfter) ∧
    ((∃ second, resetSecond now resetAfter = .ok second ∧ now / 1000 ≤ second) ↔
      ¬ Overflows now resetAfter) ∧
    (Overflows now resetAfter →
      resetSecond now resetAfter = .error (.text "attempt to add with overflow")) ∧
    (now + resetAfter.millis ≤ Text.maxI64 →
      resetSecond now resetAfter = .ok ((now + resetAfter.millis) / 1000)) := by
  have hFits : Fits (now + resetMillis resetAfter) ↔ ¬ Overflows now resetAfter :=
    fits_iff hEpoch hLast
  refine ⟨hFits, ⟨?_, fun hNot => ?_⟩, resetSecond_of_overflows, fun hSum => ?_⟩
  · rintro ⟨second, hSecond, -⟩ hOver
    rw [resetSecond_of_overflows hOver] at hSecond
    cases hSecond
  · have hNonneg := resetMillis_nonneg resetAfter
    exact ⟨_, resetSecond_of_fits hEpoch (hFits.mpr hNot), Int.ediv_le_ediv (by decide) (by omega)⟩
  · have hHeld : (resetAfter.millis : Int) ≤ Text.maxI64 := by omega
    have hNot : ¬ Overflows now resetAfter := fun hOver => absurd hSum (Int.not_le.mpr hOver.2)
    rw [resetSecond_of_fits hEpoch (hFits.mpr hNot), resetMillis_of_le hHeld]

/-- The longest duration that a store can name is cut, and the second lies in the future, even for the
last clock of all. -/
theorem longest_reset_ahead :
    let longest := Duration.ofParts 18446744073709551615 999999999
    ¬ Overflows Clock.last longest ∧
      (∃ second, resetSecond Clock.last longest = .ok second ∧ Clock.last / 1000 ≤ second) ∧
      resetSecond 1700000000999 (.ofSeconds 60) = .ok 1700000060 := by
  intro longest
  have hNot : ¬ Overflows Clock.last longest := fun h => absurd h.1 (by decide)
  obtain ⟨-, hAhead, -⟩ := reset_ahead_unless_overflows Clock.last longest (by decide) (by decide)
  obtain ⟨-, -, -, hExact⟩ :=
    reset_ahead_unless_overflows 1700000000999 (.ofSeconds 60) (by decide) (by decide)
  exact ⟨hNot, hAhead.mpr hNot, hExact (by decide)⟩

/-- The longest duration in whole seconds whose milliseconds fit leaves no room for any clock of today. -/
theorem long_reset_breaks_off :
    let long := Duration.ofSeconds 9223372036854775
    (long.millis : Int) ≤ Text.maxI64 ∧ ¬ Fits (1700000000000 + resetMillis long) ∧
      resetSecond 1700000000000 long = .error (.text "attempt to add with overflow") := by
  intro long
  have hNot : ¬ Fits (1700000000000 + resetMillis long) := by
    unfold Fits
    decide
  have hOver : Overflows 1700000000000 long := ⟨by decide, by decide⟩
  exact ⟨hOver.1, hNot, resetSecond_of_overflows hOver⟩

/-! ## What a decision tells -/

variable {request : Http.Request} {decision : RateLimit.Decision}

/-- A decision can be told just if the clock can be read and leaves room for the time until the full
quota is back. -/
structure Tellable (request : Http.Request) (decision : RateLimit.Decision) : Prop where
  epoch : 0 ≤ request.now
  calendar : request.now ≤ Clock.last
  room : ¬ Overflows request.now decision.resetAfter

theorem resetOf_of_time (hClock : 0 ≤ request.now ∧ request.now ≤ Clock.last) :
    resetOf request decision = resetSecond request.now decision.resetAfter := by
  rw [resetOf, timeOf_eq_ok hClock]
  rfl

/-- A quota that can be told is told with the second of its reset. -/
theorem Tellable.resetOf_eq (h : Tellable request decision) :
    resetOf request decision = .ok ((request.now + resetMillis decision.resetAfter) / 1000) := by
  rw [resetOf_of_time ⟨h.epoch, h.calendar⟩]
  exact resetSecond_of_fits h.epoch ((fits_iff h.epoch h.calendar).mpr h.room)

theorem resetOf_of_overflows (hClock : 0 ≤ request.now ∧ request.now ≤ Clock.last)
    (h : Overflows request.now decision.resetAfter) :
    resetOf request decision = .error overflowPanic :=
  (resetOf_of_time hClock).trans (resetSecond_of_overflows h)

/-- There is a reset second just for decisions that can be told. -/
theorem resetOf_eq_ok_iff (request : Http.Request) (decision : RateLimit.Decision) :
    (∃ reset, resetOf request decision = .ok reset) ↔ Tellable request decision := by
  refine ⟨?_, fun h => ⟨_, h.resetOf_eq⟩⟩
  rintro ⟨reset, hReset⟩
  have hClock : 0 ≤ request.now ∧ request.now ≤ Clock.last := by
    refine Decidable.byContradiction fun hClock => ?_
    obtain ⟨panic, hPanic⟩ : ∃ panic, timeOf request = .error panic :=
      timeOf_eq_error_iff.mpr (by omega)
    rw [resetOf, hPanic] at hReset
    cases hReset
  refine ⟨hClock.1, hClock.2, fun hOver => ?_⟩
  rw [resetOf_of_overflows hClock hOver] at hReset
  cases hReset

end Gatehouse.Pipeline
