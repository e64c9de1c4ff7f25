import Gatehouse.Run
import Gatehouse.Store.Command

/-! Surroundings whose counter store stands apart from everything else. Requests are counted there and
nowhere else, and it is asked for nothing but to count. It may answer late, with an error or never;
the request waits for it no longer than its patience lasts. -/
namespace Gatehouse.Surroundings

/-! ## Counting -/

/-- How a store that counts makes numbers of a limit, and what the service reads of its verdicts. -/
structure Reckoning (F : Type) where
  quota : RateLimit.Limit → RateLimit.Gcra.Quota F
  read : RateLimit.Gcra.Verdict F → Except RateLimit.Error RateLimit.Decision

namespace Reckoning

variable {F : Type} [RateLimit.Arithmetic F]

/-- Counts a request at a clock time of the store. -/
def count (reckoning : Reckoning F) (now : Int) (key : String) (limit : RateLimit.Limit)
    (data : Store.Data F) : Except RateLimit.Error RateLimit.Decision × Store.Data F :=
  let (verdict, next) := data.count now key (reckoning.quota limit)
  (reckoning.read verdict, next)

/-- The numbers of the counting script, whose times are told as texts. -/
def doubles : Reckoning Float :=
  ⟨Store.quotaOf, fun verdict => (Store.replyOf verdict).readDecision⟩

/-- What is read of a verdict is what is read of the reply that states it. -/
theorem count_doubles (now : Int) (key : String) (limit : RateLimit.Limit)
    (data : Store.Data Float) :
    doubles.count now key limit data =
      ((data.apply now (.count key (Store.quotaOf limit))).1.readDecision,
        (data.apply now (.count key (Store.quotaOf limit))).2.1) := by
  simp only [Store.Data.apply, count, doubles]

end Reckoning

/-! ## A store apart -/

/-- A counter store with a state of its own. -/
abbrev Counter (τ : Type) :=
  (key : String) → RateLimit.Limit → τ → Reply (Except RateLimit.Error RateLimit.Decision) × τ

namespace Counter

variable {τ : Type}

/-- What comes of counting a request, within the patience of the limiter. -/
def replyWithin (counter : Counter τ) (key : String) (limit : RateLimit.Limit)
    (patience : Duration) (counts : τ) :
    Reply (Option (Except RateLimit.Error RateLimit.Decision)) :=
  (counter key limit counts).1.within patience

/-- The store comes to no decision: it answers with errors, later than it may, or never. -/
def Fails (counter : Counter τ) (patience : Duration) : Prop :=
  ∀ key limit counts delay decision,
    (counter key limit counts).1 = .after delay (.ok decision) →
      patience.nanoseconds < delay.nanoseconds

end Counter

/-- The surroundings of a program with the counter store in them. -/
def countedBy {σ τ : Type} (counter : Counter τ) (world : World σ) : World (σ × τ) :=
  fun call (state, counts) =>
    match call with
    | .count key limit patience =>
      (counter.replyWithin key limit patience counts, state, (counter key limit counts).2)
    | call =>
      let (reply, next) := world call state
      (reply, next, counts)

end Gatehouse.Surroundings
