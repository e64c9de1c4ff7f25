import Gatehouse.RateLimit.Arithmetic

/-! The generic cell rate algorithm. One number is kept for each key, the time at which the
next request would arrive if all came evenly spaced. A request is admitted if it comes no
earlier than a burst before that time, and moves the time on by one interval. -/
namespace Gatehouse.RateLimit.Gcra

variable {F : Type} [Arithmetic F]

/-- A limit in numbers; the period is in seconds. -/
structure Quota (F : Type) where
  burst : F
  rate : F
  period : F

/-- The outcome for one request. -/
structure Verdict (F : Type) where
  allowed : Bool
  remaining : Int
  /-- Seconds until a request would be admitted. -/
  retryAfter : F
  /-- Seconds until the full quota is back. -/
  resetAfter : F
  /-- The arrival time to keep, and for how many seconds, if one is to be kept. -/
  keep : Option (F × Int)

/-- The time that passes between two requests at the sustained rate. -/
def Quota.interval (quota : Quota F) : F :=
  Arithmetic.div quota.period quota.rate

/-- The second from which clock times are counted: the start of the year 2017. -/
def epoch : Nat := 1483228800

def ofInt (n : Int) : F :=
  if n < 0 then Arithmetic.sub (Arithmetic.ofNat 0) (Arithmetic.ofNat n.natAbs)
  else Arithmetic.ofNat n.toNat

/-- A clock time in microseconds, as seconds. -/
def clock (now : Int) : F :=
  Arithmetic.add (Arithmetic.sub (ofInt (now / 1000000)) (Arithmetic.ofNat epoch))
    (Arithmetic.div (ofInt (now % 1000000)) (Arithmetic.ofNat 1000000))

/-- The arrival time that counts: the kept one, or the present if that is later. -/
def arrival (now : F) (kept : Option F) : F :=
  match kept with
  | none => now
  | some tat => if Arithmetic.less tat now then now else tat

/-- Decides on a request at time `now`, given the arrival time kept for its key. -/
def verdict (quota : Quota F) (now : F) (kept : Option F) : Verdict F :=
  let interval := quota.interval
  let tat := arrival now kept
  let next := Arithmetic.add tat interval
  let allowedAt := Arithmetic.sub next (Arithmetic.mul interval quota.burst)
  let early := Arithmetic.sub now allowedAt
  let remaining := Arithmetic.div early interval
  let zero : F := Arithmetic.ofNat 0
  if Arithmetic.less remaining zero then
    ⟨false, 0, Arithmetic.mul early (Arithmetic.sub zero (Arithmetic.ofNat 1)),
      Arithmetic.sub tat now, none⟩
  else
    let reset := Arithmetic.sub next now
    ⟨true, Arithmetic.floor remaining, zero, reset,
      if Arithmetic.less zero reset then some (next, Arithmetic.ceil reset) else none⟩

end Gatehouse.RateLimit.Gcra
