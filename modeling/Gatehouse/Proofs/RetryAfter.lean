import Gatehouse.Config.Basic
import Gatehouse.Proofs.ExactReckoning
import Gatehouse.Proofs.Noninterference
import Gatehouse.Proofs.Refusals

/-! How long a client has to wait once it is refused for its rate. The store tells how long it is until
a request would be admitted, and the client is told of that in whole seconds. It is admitted after the
exact wait, unless another request of its own was admitted in the meantime. -/
namespace Gatehouse

open RateLimit Surroundings

/-! ## The exact wait -/

namespace RateLimit.Gcra

/-- The wait ends when the arrival time is no more than a burst ahead of the clock. -/
theorem retryAfter_of_denied (quota : Quota ℚ) (now : ℚ) (kept : Option ℚ)
    (h : (verdict quota now kept).allowed = false) :
    (verdict quota now kept).retryAfter =
      arrival now kept + quota.interval - quota.interval * quota.burst - now := by
  unfold verdict at h ⊢
  dsimp only at h ⊢
  split at h
  · next hNegative =>
    rw [if_pos hNegative]
    change (now - (arrival now kept + quota.interval - quota.interval * quota.burst)) *
      (((0 : ℕ) : ℚ) - ((1 : ℕ) : ℚ)) = _
    push_cast
    ring
  · cases h

end RateLimit.Gcra

namespace Store.Data

variable {data other : Data ℚ} {limit : Limit} {key : String} {now later : Int}

/-- A request that comes no earlier than the wait after a refusal is admitted, if the same is still
kept for its client and requests may be made at all. -/
theorem admitted_after_wait (hRate : 1 ≤ limit.rate) (hPeriod : 0 < limit.period.nanoseconds)
    (hBurst : 1 ≤ limit.burst)
    (hDenied : (data.count now key limit.exactQuota).1.allowed = false)
    (hWait : Gcra.clock now + (data.count now key limit.exactQuota).1.retryAfter ≤
      Gcra.clock later)
    (hSame : other.get? later key = data.get? later key) :
    (other.count later key limit.exactQuota).1.allowed = true := by
  have hInterval : 0 < limit.exactQuota.interval := Limit.interval_pos hRate hPeriod
  have hBurst' : limit.exactQuota.interval ≤
      limit.exactQuota.interval * limit.exactQuota.burst := by
    have hCast : (1 : ℚ) ≤ limit.exactQuota.burst := by
      change (1 : ℚ) ≤ (limit.burst : ℚ)
      exact_mod_cast hBurst
    nlinarith
  rw [count_verdict] at hDenied hWait ⊢
  rw [Gcra.retryAfter_of_denied _ _ _ hDenied] at hWait
  obtain ⟨hAllowed, -⟩ | ⟨-, hBeyond, -⟩ := Gcra.verdict_cases limit.exactQuota hInterval
    (Gcra.clock now) ((data.get? now key).bind Stored.arrival?)
  · exact absurd (hDenied.symm.trans hAllowed) Bool.false_ne_true
  obtain ⟨hAllowed, -⟩ | ⟨-, hStill, -⟩ := Gcra.verdict_cases limit.exactQuota hInterval
    (Gcra.clock later) ((other.get? later key).bind Stored.arrival?)
  · exact hAllowed
  have hLater : now ≤ later := by
    have hPassed : (Gcra.clock now : ℚ) < Gcra.clock later := by linarith
    exact (clock_lt_iff.mp hPassed).le
  -- By then the kept arrival time is no more than a burst ahead, or it has passed.
  have hArrival : other.arrivalAt later key ≤ max (data.arrivalAt now key) (Gcra.clock later) :=
    (arrivalAt_congr hSame).trans_le (arrivalAt_later data key hLater)
  unfold arrivalAt at hArrival
  rcases le_max_iff.mp hArrival with hKept | hPassed
  · linarith
  · linarith

end Store.Data

/-! ## Configurations -/

/-- Every configuration that is accepted sustains some rate, over some time. -/
theorem Config.rateLimit_accepted {env : Environment} {config : Config}
    (h : Config.ofEnvironment env = .ok config) :
    1 ≤ config.rateLimit.limit.rate ∧ 0 < config.rateLimit.limit.period.nanoseconds := by
  obtain ⟨_, -, h⟩ := exists_of_bind_ok h
  obtain ⟨_, -, h⟩ := exists_of_bind_ok h
  obtain ⟨_, -, h⟩ := exists_of_bind_ok h
  obtain ⟨_, -, h⟩ := exists_of_bind_ok h
  obtain ⟨_, -, h⟩ := exists_of_bind_ok h
  obtain ⟨rateLimit, hLimit, h⟩ := exists_of_bind_ok h
  obtain ⟨_, -, h⟩ := exists_of_bind_ok h
  obtain ⟨_, -, h⟩ := exists_of_bind_ok h
  obtain ⟨_, -, h⟩ := exists_of_bind_ok h
  obtain ⟨_, -, h⟩ := exists_of_bind_ok h
  cases h
  obtain ⟨rate, -, hLimit⟩ := exists_of_bind_ok hLimit
  obtain ⟨burst, -, hLimit⟩ := exists_of_bind_ok hLimit
  obtain ⟨period, -, hLimit⟩ := exists_of_bind_ok hLimit
  split at hLimit
  · cases hLimit
  · split at hLimit
    · cases hLimit
    · cases hLimit
      change 1 ≤ rate ∧ 0 < period * 1000000000
      omega

/-! ## Requests one after another -/

namespace Site

/-- A store that counts in exact numbers, at a time of its clock, and answers after a while or
never. -/
def exactCounter (time : Int) (delay : Option Duration) : Counter (Store.Data ℚ) :=
  fun key limit data =>
    let (decision, next) := Reckoning.exact.count time key limit data
    (delay.elim .never fun delay => .after delay decision, next)

/-- A request, and how the store and its client go about it. -/
structure Arrival where
  /-- When the store counts it, in microseconds. -/
  time : Int
  /-- How long the answer of the store takes. -/
  delay : Option Duration
  request : Http.Request
  patience : Patience
  freshId : Bytes

def Arrival.client (arrival : Arrival) : String :=
  String.ofList (RateLimit.client arrival.request.headers arrival.request.peer)

structure Served where
  arrival : Arrival
  /-- What was kept by the store before. -/
  counts : Store.Data ℚ
  reception : Reception
  trace : List Entry

/-- The status that the client is told, and when to come back. -/
def Served.told (served : Served) : Option (Nat × List Bytes) :=
  match served.reception with
  | .response response => some (response.status, response.headers.values "retry-after")
  | _ => none

theorem Served.exists_response {served : Served} {status : Nat} {hint : List Bytes}
    (h : served.told = some (status, hint)) :
    ∃ response, served.reception = .response response ∧ response.status = status ∧
      response.headers.values "retry-after" = hint := by
  unfold told at h
  split at h
  · next response hResponse =>
    cases h
    exact ⟨response, hResponse, rfl, rfl⟩
  · cases h

variable {σ : Type} {world : World σ}

def Arrival.serve (arrival : Arrival) (server : Server) (world : World σ)
    (state : σ × Store.Data ℚ) : Served × σ × Store.Data ℚ :=
  let received := server.receive (countedBy (exactCounter arrival.time arrival.delay) world)
    arrival.patience arrival.freshId arrival.request (.fresh state)
  (⟨arrival, state.2, received.1, received.2.2⟩, received.2.1.world)

def serveAll (server : Server) (world : World σ) :
    List Arrival → σ × Store.Data ℚ → List Served × σ × Store.Data ℚ
  | [], state => ([], state)
  | arrival :: rest, state =>
    let (served, state) := arrival.serve server world state
    let (others, state) := serveAll server world rest state
    (served :: others, state)

/-- The first to arrive is served first, and the others find what it leaves. -/
theorem serveAll_cons (server : Server) (world : World σ) (arrival : Arrival) (rest : List Arrival)
    (state : σ × Store.Data ℚ) :
    serveAll server world (arrival :: rest) state =
      ((arrival.serve server world state).1 ::
          (serveAll server world rest (arrival.serve server world state).2).1,
        (serveAll server world rest (arrival.serve server world state).2).2) := rfl

/-- What the store says of a request, if it is counted. -/
def Served.verdict (gate : Gate) (served : Served) : Gcra.Verdict ℚ :=
  (served.counts.count served.arrival.time (gate.limiter.key served.arrival.client)
    gate.limiter.config.limit.exactQuota).1

/-- The request was counted, and the store admitted it. -/
def Served.IsAdmitted (gate : Gate) (served : Served) : Prop :=
  countsOf served.trace ≠ [] ∧ (served.verdict gate).allowed = true

variable {gate : Gate} {services : List Service} {timeout : Duration}

variable (world timeout) in
/-- What the store keeps after a request is what it kept before, or what counting it has made of
that. -/
theorem counts_serve (hHandlers : ∀ service ∈ services, service.handler.LeavesLimits)
    (arrival : Arrival) (state : σ × Store.Data ℚ) :
    let served := arrival.serve (serving (Pipeline.apply gate) services timeout) world state
    (countsOf served.1.trace = [] ∧ served.2.2 = state.2) ∨
    (countsOf served.1.trace ≠ [] ∧
      served.2.2 = (state.2.count arrival.time (gate.limiter.key arrival.client)
        gate.limiter.config.limit.exactQuota).2) := by
  let counter := exactCounter arrival.time arrival.delay
  let server := serving (Pipeline.apply gate) services timeout
  have hTally := Server.receive_tally world counter arrival.request server arrival.patience
    arrival.freshId rfl (.fresh state)
  have hCounts := Server.countsOf_receive (countedBy counter world) arrival.request server
    arrival.patience arrival.freshId rfl (.fresh state)
  obtain ⟨hRouted, -⟩ := run_dispatch_counted world counter (server.limit arrival.patience) gate
    timeout arrival.request hHandlers (.fresh state.1) state.2
  dsimp only at hTally hCounts hRouted
  unfold Arrival.serve
  dsimp only
  generalize server.receive (countedBy counter world) arrival.patience arrival.freshId
    arrival.request (.fresh state) = received at hTally hCounts ⊢
  have hShape : countsOf received.2.2 = [] ∨
      countsOf received.2.2 = [Pipeline.counting gate arrival.request] :=
    hCounts.elim .inl fun hSame => hRouted.imp hSame.trans hSame.trans
  rcases hShape with hNone | hOnce
  · rw [hNone] at hTally
    exact .inl ⟨hNone, hTally⟩
  · rw [hOnce] at hTally
    exact .inr ⟨hOnce ▸ List.cons_ne_nil _ _, hTally⟩

variable (world timeout) in
/-- What is kept for a client stays as it is while none of its requests is admitted. -/
theorem get?_serve (hHandlers : ∀ service ∈ services, service.handler.LeavesLimits)
    (hRate : 1 ≤ gate.limiter.config.limit.rate)
    (hPeriod : 0 < gate.limiter.config.limit.period.nanoseconds) (arrival : Arrival)
    (state : σ × Store.Data ℚ) (client : String) (later : Int) :
    let served := arrival.serve (serving (Pipeline.apply gate) services timeout) world state
    (served.1.arrival.client = client → ¬ served.1.IsAdmitted gate) →
      served.2.2.get? later (gate.limiter.key client) =
        state.2.get? later (gate.limiter.key client) := by
  intro served hRefused
  rcases counts_serve world timeout hHandlers arrival state with
    ⟨-, hSame⟩ | ⟨hCounted, hCounts⟩
  · exact congrArg (fun data => Store.KeyValue.get? data later _) hSame
  · refine (congrArg (fun data => Store.KeyValue.get? data later _) hCounts).trans ?_
    by_cases hClient : arrival.client = client
    · have hInterval := Limit.interval_pos hRate hPeriod
      obtain ⟨hAllowed, -⟩ | ⟨-, hSame⟩ := Store.Data.count_cases state.2
        (gate.limiter.key arrival.client) arrival.time gate.limiter.config.limit.exactQuota hInterval
      · exact (hRefused hClient ⟨hCounted, hAllowed⟩).elim
      · rw [hSame]
    · refine Store.Data.get?_count_of_ne _ (fun hKey => hClient ?_) _ _ _
      exact (clientKey_injective gate.limiter.config hKey).symm

/-- A client that was not admitted leaves nothing under its key, whatever others do. -/
theorem get?_serveAll (hHandlers : ∀ service ∈ services, service.handler.LeavesLimits)
    (hRate : 1 ≤ gate.limiter.config.limit.rate)
    (hPeriod : 0 < gate.limiter.config.limit.period.nanoseconds) (arrivals : List Arrival)
    (state : σ × Store.Data ℚ) (client : String) (later : Int)
    (hRefused : ∀ served ∈
      (serveAll (serving (Pipeline.apply gate) services timeout) world arrivals state).1,
      served.arrival.client = client → ¬ served.IsAdmitted gate) :
    (serveAll (serving (Pipeline.apply gate) services timeout) world arrivals state).2.2.get? later
      (gate.limiter.key client) = state.2.get? later (gate.limiter.key client) := by
  induction arrivals generalizing state with
  | nil => rfl
  | cons arrival rest ih =>
      rw [serveAll_cons] at hRefused ⊢
      have hFirst := get?_serve world timeout hHandlers hRate hPeriod arrival state client later
        (hRefused _ (List.mem_cons_self ..))
      have hRest := ih _ fun served hServed => hRefused served (List.mem_cons_of_mem _ hServed)
      exact hRest.trans hFirst

theorem read_of_exactCounter {time : Int} {delay : Option Duration} {key : String} {limit : Limit}
    {data : Store.Data ℚ} {lag : Duration} {decision : Decision}
    (h : (exactCounter time delay key limit data).1 = .after lag (.ok decision)) :
    Reckoning.exact.read (data.count time key limit.exactQuota).1 = .ok decision := by
  cases delay with
  | none => cases h
  | some delay =>
      have hAnswer : Reply.after delay (Reckoning.exact.count time key limit data).1 =
          .after lag (.ok decision) := h
      exact (Reply.after.inj hAnswer).2

/-- What a client is told of its wait, in whole seconds. -/
theorem retryAfter_of_deniedAnswer {request : Http.Request} {decision : Decision}
    {response : Http.Response} (h : Pipeline.deniedAnswer gate request decision = .ok response) :
    response.headers.values "retry-after" =
      [Bytes.ofText (toString (retryAfterSeconds decision.retryAfter))] := by
  unfold Pipeline.deniedAnswer at h
  dsimp only at h
  cases hTold : Pipeline.addQuota gate.limiter.config.limit.rate decision request
      (Pipeline.tooManyRequests (retryAfterSeconds decision.retryAfter)) with
  | error panic =>
      rw [hTold] at h
      cases h
  | ok told =>
      rw [hTold] at h
      cases h
      exact Http.Headers.values_set_self ..

/-- A client that is told of too many requests was refused by the store, and is told of the wait that
the store has told of. -/
theorem refused_of_told (hHandlers : ∀ service ∈ services, service.handler.LeavesLimits)
    (arrival : Arrival) (state : σ × Store.Data ℚ) {hint : List Bytes} :
    let served := arrival.serve (serving (Pipeline.apply gate) services timeout) world state
    served.1.told = some (429, hint) →
      (served.1.verdict gate).allowed = false ∧
      ∃ wait, Duration.ofRat? (served.1.verdict gate).retryAfter = some wait ∧
        hint = [Bytes.ofText (toString (retryAfterSeconds wait))] := by
  intro served hTold
  obtain ⟨response, hResponse, hStatus, rfl⟩ := Served.exists_response hTold
  obtain ⟨-, inner, ⟨lag, decision, hCounter, hDenied, hAnswer⟩, hHeader⟩ :=
    refused_of_receive world (exactCounter arrival.time arrival.delay) (.fresh state.1) state.2
      hHandlers hResponse hStatus
  obtain ⟨hAllowed, hWait⟩ := read_exact (read_of_exactCounter hCounter)
  exact ⟨hAllowed.symm.trans hDenied, decision.retryAfter, hWait,
    hHeader.trans (retryAfter_of_deniedAnswer hAnswer)⟩

/-- Two numbers that are told alike are the same. -/
theorem ofText_toString_inj {first second : Nat}
    (h : [Bytes.ofText (toString first)] = [Bytes.ofText (toString second)]) : first = second := by
  have hText := congrArg Bytes.toText? (List.cons.inj h).1
  rw [Bytes.toText?_ofText, Bytes.toText?_ofText] at hText
  exact Nat.repr_inj.mp (Option.some.inj hText)

/-- Whatever limit is configured by which requests may be made at all: a client that is told of too
many requests, and to come back after some seconds, is not told so again if it comes when the store's
own wait is over, and so if it comes one second later than it was told to. In between others may have
been served, and requests of its own that were not admitted. -/
theorem admitted_after_told_wait {env : Environment} {config : Config}
    (hConfig : Config.ofEnvironment env = .ok config) (hBurst : 1 ≤ config.rateLimit.limit.burst)
    (gate : Gate) (hGate : gate.limiter.config = config.rateLimit) {services : List Service}
    (hHandlers : ∀ service ∈ services, service.handler.LeavesLimits) (timeout : Duration)
    (world : World σ) (state : σ × Store.Data ℚ) (first last : Arrival) (between : List Arrival)
    (hClient : last.client = first.client) {seconds : Nat} :
    let server := serving (Pipeline.apply gate) services timeout
    let refused := first.serve server world state
    let others := serveAll server world between refused.2
    let again := last.serve server world others.2
    let wait := (refused.1.verdict gate).retryAfter
    refused.1.told = some (429, [Bytes.ofText (toString seconds)]) →
    (∀ served ∈ others.1, served.arrival.client = first.client → ¬ served.IsAdmitted gate) →
    (first.time + wait * 1000000 ≤ last.time ∨ first.time + (seconds + 1) * 1000000 ≤ last.time) →
    ∀ hint, again.1.told ≠ some (429, hint) := by
  intro server refused others again wait hTold hBetween hLater hint hAgain
  obtain ⟨hRate, hPeriod⟩ := config.rateLimit_accepted hConfig
  rw [← hGate] at hRate hPeriod hBurst
  obtain ⟨hDenied, span, hSpan, hSeconds⟩ := refused_of_told hHandlers first state hTold
  obtain ⟨hDeniedAgain, -⟩ := refused_of_told hHandlers last others.2 hAgain
  have hWaited : first.time + wait * 1000000 ≤ last.time := by
    refine hLater.elim id fun hSecond => ?_
    have hWhole : seconds = span.secondsAtLeastOne :=
      ofText_toString_inj hSeconds
    have hWait : wait < seconds + 1 := hWhole ▸ Duration.lt_secondsAtLeastOne hSpan
    have hCast : (first.time : ℚ) + (seconds + 1) * 1000000 ≤ last.time := by
      exact_mod_cast hSecond
    linarith
  have hClock : Gcra.clock first.time + wait ≤ Gcra.clock last.time := by
    rw [Gcra.clock_eq, Gcra.clock_eq]
    linarith
  -- Neither the refusal nor anything since then has changed what is kept for the client.
  have hKept : others.2.2.get? last.time (gate.limiter.key first.client) =
      state.2.get? last.time (gate.limiter.key first.client) := by
    refine (get?_serveAll hHandlers hRate hPeriod between refused.2 first.client last.time
      hBetween).trans (get?_serve world timeout hHandlers hRate hPeriod first state first.client last.time ?_)
    exact fun _ hAdmitted => Bool.false_ne_true (hDenied.symm.trans hAdmitted.2)
  have hAdmitted : (others.2.2.count last.time (gate.limiter.key first.client)
      gate.limiter.config.limit.exactQuota).1.allowed = true :=
    Store.Data.admitted_after_wait hRate hPeriod hBurst hDenied hClock hKept
  rw [← hClient] at hAdmitted
  exact Bool.false_ne_true (hDeniedAgain.symm.trans hAdmitted)

/-! ## A tight limit, and none at all -/

/-- What has to be set, and a limit. -/
def limitedEnvironment (rate burst period : String) : Environment :=
  ⟨[("DATABASE_URL", "postgres://localhost/app"), ("REDIS_URL", "redis://localhost:6379"),
    ("TOKEN_SECRET_HEX", String.ofList (List.replicate 64 'a')), ("RATE_LIMIT_RATE", rate),
    ("RATE_LIMIT_BURST", burst), ("RATE_LIMIT_PERIOD_SECONDS", period)]⟩

def limitedGate (limit : Limit) : Gate :=
  { Pipeline.sampleGate with limiter := ⟨⟨"global", limit⟩, .lenient, .ofSeconds 1, "valkey"⟩ }

def limitedServer (limit : Limit) : Server :=
  serving (Pipeline.apply (limitedGate limit)) (Site.services (limitedGate limit)) (.ofSeconds 30)

/-- A request that the store counts at this second, and answers at once. -/
def arrivalAt (second : Int) : Arrival where
  time := second * 1000000
  delay := some .zero
  request := { Pipeline.sampleRequest with method := "GET", target := ⟨none, "/api/v1/tenant".toList⟩ }
  patience := .stays
  freshId := []

/-- What the application answers at these seconds, with nothing kept at first. -/
def limitedAt (limit : Limit) (seconds : List Int) : List Served × Unit × Store.Data ℚ :=
  serveAll (limitedServer limit) (Pipeline.sampleWorld .zero) (seconds.map arrivalAt) ((), .empty)

theorem exists_config {env : Environment} {limit : RateLimit.Config}
    (h : (Config.ofEnvironment env).map (fun config => config.rateLimit) = .ok limit) :
    ∃ config, Config.ofEnvironment env = .ok config ∧ config.rateLimit = limit := by
  cases hConfig : Config.ofEnvironment env with
  | error error =>
      rw [hConfig] at h
      cases h
  | ok config =>
      rw [hConfig] at h
      exact ⟨config, rfl, Except.ok.inj h⟩

/-- Two requests in three seconds, one at once. -/
def tightLimit : Limit := ⟨2, 1, .ofSeconds 3⟩

/-- The service starts with that limit. -/
theorem tightLimit_accepted :
    ∃ config, Config.ofEnvironment (limitedEnvironment "2" "1" "3") = .ok config ∧
      config.rateLimit = (limitedGate tightLimit).limiter.config :=
  exists_config (by cbv)

/-- Of two requests at once the second is refused, and told to come back in a second. A second after
that it is not refused again. -/
theorem admitted_second_later :
    let state := (limitedAt tightLimit [1500000000]).2
    let refused := (arrivalAt 1500000000).serve (limitedServer tightLimit)
      (Pipeline.sampleWorld .zero) state
    let again := (arrivalAt 1500000002).serve (limitedServer tightLimit)
      (Pipeline.sampleWorld .zero) refused.2
    refused.1.told = some (429, [Bytes.ofText (toString 1)]) ∧ again.1.told = some (200, []) ∧
      ∀ hint, again.1.told ≠ some (429, hint) := by
  intro state refused again
  obtain ⟨config, hConfig, hLimit⟩ := tightLimit_accepted
  have hRefused : refused.1.told = some (429, [Bytes.ofText (toString 1)]) := by decide +kernel
  refine ⟨hRefused, by decide +kernel, ?_⟩
  exact admitted_after_told_wait hConfig (by rw [hLimit]; decide) (limitedGate tightLimit)
    hLimit.symm (leavesLimits_services _) (.ofSeconds 30) (Pipeline.sampleWorld .zero) state
    (arrivalAt 1500000000) (arrivalAt 1500000002) [] rfl hRefused (by simp [serveAll])
    (.inr (by decide))

/-- One request in a second, but none at once. -/
def closedLimit : Limit := ⟨1, 0, .ofSeconds 1⟩

/-- Of a wait of a second and a half, a second is told, and a request that comes then is refused as
well. Where none is let through at once, none ever is. -/
theorem refused_after_told_wait :
    (∃ config, Config.ofEnvironment (limitedEnvironment "2" "1" "3") = .ok config ∧
      config.rateLimit = (limitedGate tightLimit).limiter.config) ∧
    (limitedAt tightLimit [1500000000, 1500000000, 1500000001]).1.map Served.told =
      [some (200, []), some (429, [Bytes.ofText "1"]), some (429, [Bytes.ofText "1"])] ∧
    (∃ config, Config.ofEnvironment (limitedEnvironment "1" "0" "1") = .ok config ∧
      config.rateLimit = (limitedGate closedLimit).limiter.config) ∧
    (limitedAt closedLimit [1500000000, 1500000001, 1500000002]).1.map Served.told =
      [some (429, [Bytes.ofText "1"]), some (429, [Bytes.ofText "1"]),
        some (429, [Bytes.ofText "1"])] :=
  ⟨tightLimit_accepted, by decide +kernel, exists_config (by cbv), by decide +kernel⟩

end Site

end Gatehouse
