import Gatehouse.Duration

/-! The wall clock, in milliseconds since the start of 1970. It can be read from that moment on,
and up to the end of the last year that the calendar has. -/
namespace Gatehouse

/-- Why a clock cannot be read. -/
inductive ClockError
  /-- It stands before 1970, by this much. -/
  | beforeEpoch (lag : Duration)
  /-- It stands behind the last day of the calendar. -/
  | afterCalendar
  deriving DecidableEq, Repr

def ClockError.message : ClockError → String
  | .beforeEpoch lag => s!"system time before Unix epoch: SystemTimeError({lag.describe})"
  | .afterCalendar => "called `Option::unwrap()` on a `None` value"

namespace Clock

/-- The last millisecond of the year 262142. -/
def last : Int := 8210266876799999

/-- The milliseconds of a clock that can be read. -/
def read (now : Int) : Except ClockError Int :=
  if now < 0 then .error (.beforeEpoch (.ofMillis now.natAbs))
  else if last < now then .error .afterCalendar
  else .ok now

theorem read_eq_ok_iff {now millis : Int} : read now = .ok millis ↔ now = millis ∧ 0 ≤ now ∧
    now ≤ last := by
  unfold read
  split
  · constructor
    · simp
    · omega
  · split
    · constructor
      · simp
      · omega
    · simp only [Except.ok.injEq]
      omega

end Clock

end Gatehouse
