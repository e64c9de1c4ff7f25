import Gatehouse.Proofs.Persistence

/-! A store that forgets, beside one that does not. An arrival time is forgotten only when it has
passed, and from then on the present counts in its place, as it does when the time is still there. So
requests are told the same by both stores, however long they go on. -/
namespace Gatehouse

open RateLimit

/-- Of what is kept, only the arrival time that counts has a part in a verdict. -/
theorem RateLimit.Gcra.verdict_congr (quota : Gcra.Quota ℚ) {now : ℚ} {kept other : Option ℚ}
    (h : Gcra.arrival now kept = Gcra.arrival now other) :
    Gcra.verdict quota now kept = Gcra.verdict quota now other := by
  unfold Gcra.verdict
  rw [h]

namespace Store

/-- A request that is to be counted under a limit, at a clock time of the server. -/
structure Demand where
  time : Int
  key : String
  limit : Limit

namespace Data

variable {data other : Data ℚ} {quota : Gcra.Quota ℚ}

/-! ## Two ways of keeping -/

/-- How a store counts a request. -/
abbrev Counting := Data ℚ → Int → String → Gcra.Quota ℚ → Gcra.Verdict ℚ × Data ℚ

/-- Counts a request just as `count` does, but keeps its arrival time for good. -/
def countForGood : Counting := fun data now key quota =>
  let kept := (data.get? now key).bind Stored.arrival?
  let verdict := Gcra.verdict quota (Gcra.clock now) kept
  match verdict.keep with
  | none => (verdict, data)
  | some (time, _) => (verdict, data.set key (.arrival time))

/-- What requests are told when they are counted one after another. -/
def answers (counting : Counting) (data : Data ℚ) : List Demand → List Gcra.Answer
  | [] => []
  | demand :: rest =>
    let (verdict, next) := counting data demand.time demand.key demand.limit.exactQuota
    verdict.answer :: answers counting next rest

/-- An arrival time that is set for good is there until the clock has passed it. -/
theorem arrivalAt_set (data : Data ℚ) (key : String) (later : Int) (time : ℚ) :
    arrivalAt (data.set key (.arrival time)) later key = max time (Gcra.clock later) := by
  unfold arrivalAt KeyValue.set
  rw [KeyValue.get?_insert_self]
  exact Gcra.arrival_some ..

/-! ## Nothing is missed -/

/-- At any time the same arrival time counts under every key, be it kept or not. -/
def Concur (data other : Data ℚ) : Prop :=
  ∀ key later, data.arrivalAt later key = other.arrivalAt later key

/-- Of two stores that concur, one that forgets and one that does not, both decide alike on a request,
and concur again. -/
theorem Concur.count (h : Concur data other) (hInterval : 0 < quota.interval) (now : Int)
    (key : String) :
    (data.count now key quota).1 = (other.countForGood now key quota).1 ∧
      Concur (data.count now key quota).2 (other.countForGood now key quota).2 := by
  have hVerdict : Gcra.verdict quota (Gcra.clock now) ((data.get? now key).bind Stored.arrival?) =
      Gcra.verdict quota (Gcra.clock now) ((other.get? now key).bind Stored.arrival?) :=
    Gcra.verdict_congr quota (h key now)
  unfold Data.count countForGood
  dsimp only
  rw [hVerdict]
  obtain ⟨-, -, hKeep⟩ | ⟨-, -, hKeep⟩ := Gcra.verdict_spec hInterval (Gcra.clock now)
    ((other.get? now key).bind Stored.arrival?)
  · simp only [hKeep]
    refine ⟨trivial, fun name later => ?_⟩
    by_cases hName : name = key
    · -- The one entry goes when its time has passed, the other one stays: the later of time and clock
      -- counts with either.
      subst hName
      rw [arrivalAt_keep, arrivalAt_set]
    · rw [KeyValue.setFor, KeyValue.set, arrivalAt_congr (KeyValue.get?_insert_of_ne _ _ hName _),
        arrivalAt_congr (KeyValue.get?_insert_of_ne _ _ hName _)]
      exact h name later
  · simp only [hKeep]
    exact ⟨trivial, h⟩

/-- Stores that concur tell any run of requests the same. -/
theorem Concur.answers_eq (h : Concur data other) (demands : List Demand)
    (hLimits : ∀ demand ∈ demands, 1 ≤ demand.limit.rate ∧ 0 < demand.limit.period.nanoseconds) :
    answers Data.count data demands = answers countForGood other demands := by
  induction demands generalizing data other with
  | nil => rfl
  | cons demand rest ih =>
      obtain ⟨hRate, hPeriod⟩ := hLimits demand (List.mem_cons_self ..)
      obtain ⟨hVerdict, hNext⟩ := h.count (Limit.interval_pos hRate hPeriod) demand.time demand.key
      rw [answers, answers]
      dsimp only
      rw [hVerdict, ih hNext fun later hLater => hLimits later (List.mem_cons_of_mem _ hLater)]

/-- Requests that are counted one after another, under whatever keys and limits, are told just what they
would be told if nothing were ever forgotten. -/
theorem forgetting_unnoticed (demands : List Demand)
    (hLimits : ∀ demand ∈ demands, 1 ≤ demand.limit.rate ∧ 0 < demand.limit.period.nanoseconds) :
    answers count .empty demands = answers countForGood .empty demands :=
  Concur.answers_eq (fun _ _ => rfl) demands hLimits

/-- Two requests in three seconds, three at once. The entry of the first request goes after two seconds,
half a second after its arrival time has passed, where it could stay for good. Neither a request in
that half second nor one after it is told anything else for that. -/
theorem forgotten_entry_unnoticed :
    let limit : Limit := ⟨2, 3, .ofSeconds 3⟩
    let first : Demand := ⟨1500000000000000, "key", limit⟩
    let demands := [first, ⟨1500000000500000, "other", ⟨1, 1, .ofSeconds 60⟩⟩,
      ⟨1500000001750000, "key", limit⟩, ⟨1500000009000000, "key", limit⟩]
    answers count .empty demands = answers countForGood .empty demands ∧
      ((count .empty first.time first.key limit.exactQuota).2.get? 1500000002000000 "key").isNone ∧
      ((countForGood .empty first.time first.key limit.exactQuota).2.get?
        1500000002000000 "key").isSome := by
  intro limit first demands
  refine ⟨forgetting_unnoticed demands ?_, by decide +kernel, by decide +kernel⟩
  simp [demands, first, limit, Duration.ofSeconds]

end Data

end Store

end Gatehouse
