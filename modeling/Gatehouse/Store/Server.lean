import Gatehouse.Number.General
import Gatehouse.RateLimit.Basic
import Gatehouse.RateLimit.Gcra
import Gatehouse.Store.KeyValue
import Gatehouse.Store.Reply

/-! The key-value server: texts for the tenant cache and arrival times for the limiter share
one key space. Counting a request reads and writes its key in one step. -/
namespace Gatehouse.Store

/-- What is kept under a key. -/
inductive Stored (F : Type)
  | text (value : String)
  | arrival (time : F)

def Stored.text? {F : Type} : Stored F → Option String
  | .text value => some value
  | .arrival _ => none

def Stored.arrival? {F : Type} : Stored F → Option F
  | .text _ => none
  | .arrival time => some time

abbrev Data (F : Type) := KeyValue (Stored F)

namespace Data

variable {F : Type} [RateLimit.Arithmetic F]

/-- The text under a key. -/
def read (data : Data F) (now : Int) (key : String) : Option String :=
  (data.get? now key).bind Stored.text?

/-- Whether a key is there, and the data without it. -/
def delete (data : Data F) (now : Int) (key : String) : Bool × Data F :=
  ((data.get? now key).isSome, data.erase key)

/-- Counts a request at clock time `now`. An arrival time is kept for the seconds that the
verdict names. -/
def count (data : Data F) (now : Int) (key : String) (quota : RateLimit.Gcra.Quota F) :
    RateLimit.Gcra.Verdict F × Data F :=
  let kept := (data.get? now key).bind Stored.arrival?
  let verdict := RateLimit.Gcra.verdict quota (RateLimit.Gcra.clock now) kept
  match verdict.keep with
  | none => (verdict, data)
  | some (time, seconds) => (verdict, data.setFor now key (.arrival time) seconds.toNat)

end Data

/-- The limit as the counting script gets it. A rate of zero counts as one. -/
def quotaOf (limit : RateLimit.Limit) : RateLimit.Gcra.Quota Float :=
  ⟨RateLimit.Arithmetic.ofNat limit.burst, RateLimit.Arithmetic.ofNat (max limit.rate 1),
    limit.period.toFloat⟩

/-- The reply that states a verdict; its times are texts. -/
def replyOf (verdict : RateLimit.Gcra.Verdict Float) : Reply :=
  let text := fun (x : Float) => Reply.bulk (Bytes.ofText (Number.general x))
  .array [.int (if verdict.allowed then 1 else 0), .int verdict.remaining, text verdict.retryAfter,
    text verdict.resetAfter]

end Gatehouse.Store
