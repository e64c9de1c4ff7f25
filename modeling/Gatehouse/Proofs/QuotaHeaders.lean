import Gatehouse.Proofs.Boundary
import Gatehouse.Proofs.StageOrder

/-! What a response tells of the quota of its client. Where the counter store has decided, the
limiter puts three headers on what the stages behind it answer, or on its own refusal. It does so on
the way back. A request that comes to a panic or is dropped is answered by the boundary, which knows
nothing of the quota; so is one that comes to a panic in the limiter itself, because there is no
reset second to tell. -/
namespace Gatehouse.Pipeline

variable {σ : Type} {world : World σ} {deadline : Option Duration} {gate : Gate} {access : Access}
    {handler : Handler} {request : Http.Request} {scene : Scene σ}

/-! ## The headers -/

def quotaHeaders : List String :=
  ["x-ratelimit-limit", "x-ratelimit-remaining", "x-ratelimit-reset"]

/-- Each of the headers has one value: the rate, what remains of it, and when all of it is back. -/
structure TellsQuota (rate : Nat) (decision : RateLimit.Decision) (second : Int)
    (response : Http.Response) : Prop where
  limit : response.headers.values "x-ratelimit-limit" = [Bytes.ofText (toString rate)]
  remaining : response.headers.values "x-ratelimit-remaining" =
    [Bytes.ofText (toString decision.remaining)]
  reset : response.headers.values "x-ratelimit-reset" = [Bytes.ofText (toString second)]

def TellsNoQuota (response : Http.Response) : Prop :=
  ∀ name ∈ quotaHeaders, response.headers.values name = []

/-- Two responses tell the same of the quota. -/
def AgreesOnQuota (first second : Http.Response) : Prop :=
  ∀ name ∈ quotaHeaders, first.headers.values name = second.headers.values name

/-- The quota is told in three headers, so a response that agrees on them tells it as well. -/
theorem TellsQuota.congr {rate : Nat} {decision : RateLimit.Decision} {reset : Int}
    {first second : Http.Response} (h : TellsQuota rate decision reset second)
    (hAgrees : AgreesOnQuota first second) : TellsQuota rate decision reset first :=
  ⟨(hAgrees _ (by simp [quotaHeaders])).trans h.limit,
    (hAgrees _ (by simp [quotaHeaders])).trans h.remaining,
    (hAgrees _ (by simp [quotaHeaders])).trans h.reset⟩

theorem TellsNoQuota.congr {first second : Http.Response} (h : TellsNoQuota second)
    (hAgrees : AgreesOnQuota first second) : TellsNoQuota first :=
  fun name hName => (hAgrees name hName).trans (h name hName)

/-- Whatever a response has told before, it tells this quota now, once. -/
theorem tellsQuota_setQuota (rate : Nat) (decision : RateLimit.Decision) (reset : Int)
    (response : Http.Response) :
    TellsQuota rate decision reset (setQuota rate decision reset response) := by
  constructor
  · simp only [setQuota, Http.Response.setHeader]
    rw [Http.Headers.values_set_of_ne _ (by decide), Http.Headers.values_set_of_ne _ (by decide),
      Http.Headers.values_set_self]
  · simp only [setQuota, Http.Response.setHeader]
    rw [Http.Headers.values_set_of_ne _ (by decide), Http.Headers.values_set_self]
  · exact Http.Headers.values_set_self ..

/-- Another header may be set. -/
theorem agreesOnQuota_setHeader (response : Http.Response) {name : String}
    (h : name ∉ quotaHeaders) (value : String) :
    AgreesOnQuota (response.setHeader name value) response :=
  fun other hOther =>
    Http.Headers.values_set_of_ne _ (fun hEq : other = name => h (hEq ▸ hOther)) _

/-- What is done to complete a response leaves the three headers as they are. -/
theorem agreesOnQuota_complete (route : Option Site.Route) (request : Http.Request)
    (response : Http.Response) : AgreesOnQuota (Site.complete route request response) response := by
  intro name hName
  refine Site.complete_values route request response ?_ ?_
  · rintro rfl
    revert hName
    decide
  · rintro rfl
    revert hName
    decide

/-- The boundary leaves the headers as they are. -/
theorem agreesOnQuota_boundary (route : Option Site.Route) (request : Http.Request) (id : Bytes)
    (response : Http.Response) :
    AgreesOnQuota (Site.complete route request (Site.addRequestId id response)) response := by
  intro name hName
  rw [agreesOnQuota_complete route request _ name hName]
  refine Site.addRequestId_values id response ?_
  rintro rfl
  revert hName
  decide

theorem tellsNoQuota_bare (status : Nat) : TellsNoQuota (.bare status) :=
  fun _ _ => rfl

theorem tellsNoQuota_contentType (status : Nat) (value : Bytes) (body : String) :
    TellsNoQuota ⟨status, ⟨[("content-type", value)]⟩, body⟩ := by
  intro name hName
  simp only [quotaHeaders, List.mem_cons, List.not_mem_nil, or_false] at hName
  rcases hName with rfl | rfl | rfl <;> rfl

/-- A refusal does not tell a quota of itself. -/
theorem tellsNoQuota_refusal (refusal : Refusal) : TellsNoQuota refusal.response :=
  fun name hName => tellsNoQuota_contentType _ _ _ name hName

/-! ## Counting once -/

def IsCount : Call → Prop
  | .count _ _ _ => True
  | _ => False

/-- No request was counted. -/
def Uncounted (trace : List Entry) : Prop :=
  ∀ call ∈ callsOf trace, ¬ IsCount call

theorem uncounted_nil : Uncounted [] := nofun

theorem Uncounted.append {first second : List Entry} (hFirst : Uncounted first)
    (hSecond : Uncounted second) : Uncounted (first ++ second) := by
  intro call hCall
  rw [callsOf_append, List.mem_append] at hCall
  exact hCall.elim (hFirst call) (hSecond call)

theorem uncounted_events (events : List Event) : Uncounted (events.map .logged) := by
  intro call hCall
  rw [callsOf_events] at hCall
  cases hCall

/-- A tenant is found without counting the request. -/
theorem uncounted_tenantFor :
    Uncounted ((tenantFor gate request).run world deadline scene).trace := by
  obtain ⟨hCalls, -, -⟩ := (obeys_tenantFor gate request).run world deadline scene trivial
  intro call hCall
  obtain ⟨holds, hLookup, -⟩ := hCalls call hCall
  cases call <;> first | exact id | exact hLookup.elim

theorem uncounted_opening {setting tenant : String} :
    Uncounted ((opening setting tenant).run world deadline scene).trace := by
  intro call hCall
  rcases opening_calls (run_opening world deadline setting tenant scene) call hCall with
    rfl | rfl | rfl <;> exact id

/-- A handler has no means to count, nor has the end of its transaction. -/
theorem uncounted_serveBound {tenant : String} {context : Context} :
    Uncounted ((serveBound tenant context (handler request)).run world deadline scene).trace := by
  obtain ⟨hWork, -, -⟩ := handling_works world deadline handler request
    { context with transaction := some tenant } scene
  obtain ⟨after, hTrace, hAfter⟩ :=
    (run_serveBound world deadline tenant context handler request scene).trace_eq
  rw [hTrace]
  refine Uncounted.append (fun call hCall => ?_) fun call hCall => ?_
  · have hIsWork := hWork call hCall
    cases call <;> first | exact id | exact hIsWork.elim
  · rcases hAfter call hCall with rfl | rfl | rfl <;> exact id

theorem uncounted_finding {label : List Char} :
    Uncounted (exchanges (finding world deadline gate label scene).trace) := by
  obtain ⟨hCalls, -, -⟩ :=
    (obeys_find gate.tenants (String.ofList label)).run world deadline scene trivial
  intro call hCall
  rw [callsOf_exchanges, List.mem_filter] at hCall
  obtain ⟨holds, hLookup, -⟩ := hCalls call hCall.1
  cases call <;> first | exact id | exact hLookup.elim

theorem Resolves.uncounted {tenant : Tenant} {lookups : List Entry}
    (h : Resolves world deadline gate request scene tenant lookups) : Uncounted lookups := by
  obtain ⟨label, -, -, -, rfl⟩ := h
  exact uncounted_finding

/-- The count of the request has this reply, and no other. -/
def Replied (gate : Gate) (request : Http.Request) (trace : List Entry) (reply : CountReply) :
    Prop :=
  ∀ other, .answered (counting gate request) other ∈ trace ↔ other = reply

/-- The reply to the count is the only one in the trace of a request. -/
theorem replied_of_uncounted {before after : List Entry} (hBefore : Uncounted before)
    (hAfter : Uncounted after) (reply : CountReply) :
    Replied gate request (before ++ .answered (counting gate request) reply :: after) reply := by
  intro other
  constructor
  · intro hMem
    rcases List.mem_append.mp hMem with hMem | hMem
    · exact (hBefore _ (mem_callsOf_of_answered hMem) trivial).elim
    rcases List.mem_cons.mp hMem with hMem | hMem
    · cases hMem
      rfl
    · exact (hAfter _ (mem_callsOf_of_answered hMem) trivial).elim
  · rintro rfl
    simp

theorem replied_exchanges_iff {trace : List Entry} {reply : CountReply} :
    Replied gate request (exchanges trace) reply ↔ Replied gate request trace reply := by
  refine forall_congr' fun other => iff_congr ?_ Iff.rfl
  rw [exchanges, List.mem_filter]
  exact and_iff_left rfl

/-! ## What the limiter makes of a request -/

/-- The answer of a request that the limiter has denied. -/
def deniedAnswer (gate : Gate) (request : Http.Request) (decision : RateLimit.Decision) : Answer :=
  let wait := RateLimit.retryAfterSeconds decision.retryAfter
  (addQuota gate.limiter.config.limit.rate decision request (tooManyRequests wait)).map
    fun response => response.setHeader "retry-after" (toString wait)

/-- What comes of an admission: an answer, or how the later answer is told. -/
def limitedBy (gate : Gate) (request : Http.Request) :
    RateLimit.Admission → Except Answer (Answer → Answer)
  | .failedOpen => .ok id
  | .failedClosed => .error (Answer.refuse .rateLimitUnavailable)
  | .decided decision =>
    if decision.allowed then
      .ok fun answer => answer.bind (addQuota gate.limiter.config.limit.rate decision request)
    else .error (deniedAnswer gate request decision)

variable (world deadline gate request scene) in
/-- Either the request is dropped while it is counted, or the reply decides what comes of it. -/
theorem run_quotaFor_eq :
    let outcome := (quotaFor gate request).run world deadline scene
    (∃ holds, outcome.ending = .dropped holds ∧
      outcome.trace = [.dropped (counting gate request)]) ∨
    ∃ (reply : CountReply) (events : List Event),
      outcome.ending = .finished (limitedBy gate request (admissionOf gate.limiter reply)) ∧
      outcome.trace = .answered (counting gate request) reply :: events.map .logged := by
  obtain ⟨events, hRun⟩ := run_admission world deadline gate.limiter
    (String.ofList (RateLimit.client request.headers request.peer)) scene
  dsimp only
  rw [quotaFor, Program.run_bind, hRun]
  cases scene.ask world deadline (counting gate request) with
  | error after => exact .inl ⟨[], rfl, rfl⟩
  | ok result =>
      obtain ⟨reply, after⟩ := result
      refine .inr ⟨reply, ?_⟩
      dsimp only [Outcome.andThen]
      cases admissionOf gate.limiter reply with
      | failedOpen => exact ⟨events reply, rfl, by simp [Program.run]⟩
      | failedClosed => exact ⟨events reply, rfl, by simp [Program.run]⟩
      | decided decision =>
          dsimp only [limitedBy]
          cases decision.allowed with
          | true => exact ⟨events reply, rfl, by simp [Program.run]⟩
          | false =>
              let denied := deniedEvent gate
                (String.ofList (RateLimit.client request.headers request.peer))
                (RateLimit.retryAfterSeconds decision.retryAfter)
              exact ⟨events reply ++ [denied], rfl, by simp [Program.run, denied]⟩

/-! ## Behind the limiter -/

/-- The stages behind the limiter, for the tenant of the request. -/
def serveCounted (gate : Gate) (access : Access) (handler : Handler) (request : Http.Request)
    (tenant : Tenant) : Program Answer :=
  (claimsFor gate access request tenant).bind fun
    | .error answer => .done answer
    | .ok claims => (opening gate.tenantSetting tenant.id).bind fun
      | .error answer => .done answer
      | .ok () => serveBound tenant.id ⟨some tenant, claims, none⟩ (handler request)

/-- The stages are the search for the tenant and what is behind the count. -/
theorem apply_eq_serveCounted (gate : Gate) (access : Access) (handler : Handler)
    (request : Http.Request) :
    apply gate access handler request = (tenantFor gate request).bind fun
      | .error answer => .done answer
      | .ok tenant => (quotaFor gate request).bind fun
        | .error answer => .done answer
        | .ok tell => (serveCounted gate access handler request tenant).bind fun answer =>
          .done (tell answer) := by
  rw [apply, resolveTenant_eq]
  congr 1
  funext found
  cases found with
  | error answer => rfl
  | ok tenant =>
      dsimp only [Context.fresh]
      rw [limitRate_eq]
      congr 1
      funext quota
      cases quota with
      | error answer => rfl
      | ok tell =>
          dsimp only
          rw [authorize_eq, serveCounted]
          congr 2
          funext shown
          cases shown with
          | error answer => rfl
          | ok claims => exact isolate_eq gate rfl (handler request)

/-- The handler of a request has come to an answer, in a run that can be seen in the trace. -/
def Handles (world : World σ) (deadline : Option Duration) (handler : Handler)
    (request : Http.Request) (trace : List Entry) (answer : Answer) : Prop :=
  ∃ tenant claims entry,
    let handled := handling world deadline handler request ⟨some tenant, claims, some tenant.id⟩
      entry
    handled.ending = .finished answer ∧ handled.trace <:+: trace

/-- What the stages behind the limiter answer: a refusal, or what the handler has come to, or the
panic to which verifying the token has come. -/
inductive Behind (world : World σ) (deadline : Option Duration) (gate : Gate) (handler : Handler)
    (request : Http.Request) (trace : List Entry) : Answer → Prop
  | refused (refusal : Refusal) :
      Behind world deadline gate handler request trace (Answer.refuse refusal)
  | brokenOff (text : List Char) (source : CredentialSource)
      (hFound : Credential.find request.headers gate.cookieFallback = .ok (text, source))
      (panic : Panic) (hVerified : verifyToken gate request (String.ofList text) = .error panic) :
      Behind world deadline gate handler request trace (.error panic)
  | handled (answer : Answer) (h : Handles world deadline handler request trace answer) :
      Behind world deadline gate handler request trace answer

theorem Behind.mono {trace whole : List Entry} {answer : Answer}
    (h : Behind world deadline gate handler request trace answer) (hTrace : trace <:+: whole) :
    Behind world deadline gate handler request whole answer := by
  cases h with
  | refused refusal => exact .refused refusal
  | brokenOff text source hFound panic hVerified =>
      exact .brokenOff text source hFound panic hVerified
  | handled answer h =>
      obtain ⟨tenant, claims, entry, hEnding, hSeen⟩ := h
      exact .handled answer ⟨tenant, claims, entry, hEnding, hSeen.trans hTrace⟩

/-- An answer from within the transaction is the handler's or a refusal. -/
theorem Serving.behind {tenant : Tenant} {claims : Option Token.Claims} {entry last : Scene σ}
    {answer : Answer} {trace : List Entry}
    (h : Serving tenant.id (handling world deadline handler request
      ⟨some tenant, claims, some tenant.id⟩ entry) (.finished answer) last trace) :
    Behind world deadline gate handler request trace answer := by
  obtain ⟨after, hTrace, -⟩ := h.trace_eq
  have hSeen : (handling world deadline handler request ⟨some tenant, claims, some tenant.id⟩
      entry).trace <:+: trace := hTrace ▸ (List.prefix_append _ after).isInfix
  cases h with
  | closed result hResult _ _ _ rest hFinishing =>
      cases hFinishing with
      | rolledBack => exact .handled answer ⟨tenant, claims, entry, hResult, hSeen⟩
      | committed => exact .handled answer ⟨tenant, claims, entry, hResult, hSeen⟩
      | commitFailed => exact .refused .internal

/-- A transaction that cannot be opened is refused. -/
theorem Opening.behind {setting tenant : String} {answer : Answer} {trace whole : List Entry}
    (h : Opening setting tenant (.finished (.error answer)) trace) :
    Behind world deadline gate handler request whole answer := by
  cases h with
  | beginFailed => exact .refused .internal
  | rolledBack => exact .refused .internal

variable (world deadline gate access handler request scene) in
/-- A request that was counted is served, and each way that this can end. -/
theorem run_serveCounted (tenant : Tenant) :
    let outcome := (serveCounted gate access handler request tenant).run world deadline scene
    Uncounted outcome.trace ∧ ∀ answer, outcome.ending = .finished answer →
      Behind world deadline gate handler request outcome.trace answer := by
  obtain ⟨result, events, hJudged, hRun⟩ := run_claimsFor world deadline gate access request tenant
    scene
  dsimp only
  rw [serveCounted, Program.run_bind, hRun, Outcome.andThen_of_finished rfl]
  cases hJudged with
  | unauthorized hAccess reason hReason =>
      refine ⟨(uncounted_events events).append uncounted_nil, ?_⟩
      rintro answer ⟨⟩
      exact .refused _
  | brokenOff hAccess text source hFound panic hVerified =>
      refine ⟨(uncounted_events events).append uncounted_nil, ?_⟩
      rintro answer ⟨⟩
      exact .brokenOff text source hFound panic hVerified
  | entitled claims hEntitled =>
      dsimp only
      have hOpening := run_opening world deadline gate.tenantSetting tenant.id scene
      rw [Program.run_bind]
      cases hOpened : ((opening gate.tenantSetting tenant.id).run world deadline scene).ending with
      | dropped holds =>
          rw [Outcome.andThen_of_dropped hOpened]
          exact ⟨(uncounted_events events).append uncounted_opening, nofun⟩
      | finished opened =>
          rw [Outcome.andThen_of_finished hOpened]
          rw [hOpened] at hOpening
          cases opened with
          | error answer =>
              refine ⟨(uncounted_events events).append
                (uncounted_opening.append uncounted_nil), ?_⟩
              rintro answer ⟨⟩
              exact hOpening.behind
          | ok value =>
              have hServing := run_serveBound world deadline tenant.id
                ⟨some tenant, claims, none⟩ handler request
                ((opening gate.tenantSetting tenant.id).run world deadline scene).scene
              refine ⟨(uncounted_events events).append
                (uncounted_opening.append uncounted_serveBound), fun answer hAnswer => ?_⟩
              have hEnds : ((serveBound tenant.id ⟨some tenant, claims, none⟩
                  (handler request)).run world deadline
                  ((opening gate.tenantSetting tenant.id).run world deadline scene).scene).ending =
                  .finished answer := hAnswer
              dsimp only at hServing
              rw [hEnds] at hServing
              refine hServing.behind.mono ?_
              exact ((List.suffix_append _ _).trans (List.suffix_append _ _)).isInfix

/-! ## The way back -/

/-- The quota is told in an answer as of this decision, or the answer is a panic: that of the stages
behind the limiter, or that of a reset second that there is not. -/
inductive Told (world : World σ) (deadline : Option Duration) (gate : Gate) (handler : Handler)
    (request : Http.Request) (trace : List Entry) (decision : RateLimit.Decision) : Answer → Prop
  | told (reset : Int) (hReset : resetOf request decision = .ok reset) (response : Http.Response)
      (h : TellsQuota gate.limiter.config.limit.rate decision reset response) :
      Told world deadline gate handler request trace decision (.ok response)
  | untellable (panic : Panic) (hReset : resetOf request decision = .error panic) :
      Told world deadline gate handler request trace decision (.error panic)
  | panicked (panic : Panic)
      (h : Behind world deadline gate handler request trace (.error panic)) :
      Told world deadline gate handler request trace decision (.error panic)

variable {trace : List Entry}

theorem Told.mono {whole : List Entry} {decision : RateLimit.Decision} {answer : Answer}
    (h : Told world deadline gate handler request trace decision answer)
    (hTrace : trace <:+: whole) :
    Told world deadline gate handler request whole decision answer := by
  cases h with
  | told reset hReset response h => exact .told reset hReset response h
  | untellable panic hReset => exact .untellable panic hReset
  | panicked panic h => exact .panicked panic (h.mono hTrace)

/-- An answer is told its quota, or breaks off where that cannot be told. -/
theorem told_addQuota (decision : RateLimit.Decision) (response : Http.Response) :
    Told world deadline gate handler request trace decision
      (addQuota gate.limiter.config.limit.rate decision request response) := by
  cases hReset : resetOf request decision with
  | error panic =>
      rw [addQuota_error hReset]
      exact .untellable panic hReset
  | ok reset =>
      rw [addQuota_ok hReset]
      exact .told reset hReset _ (tellsQuota_setQuota ..)

theorem Told.setHeader {decision : RateLimit.Decision} {answer : Answer}
    (h : Told world deadline gate handler request trace decision answer) {name : String}
    (hName : name ∉ quotaHeaders) (value : String) :
    Told world deadline gate handler request trace decision
      (answer.map fun response => response.setHeader name value) := by
  cases h with
  | told reset hReset response h =>
      exact .told reset hReset _ (h.congr (agreesOnQuota_setHeader response hName value))
  | untellable panic hReset => exact .untellable panic hReset
  | panicked panic h => exact .panicked panic h

/-- Whoever is denied is told the quota with it. -/
theorem told_deniedAnswer (decision : RateLimit.Decision) :
    Told world deadline gate handler request trace decision
      (deniedAnswer gate request decision) :=
  (told_addQuota decision _).setHeader (by decide) _

/-- What the stages behind the limiter answer, with the quota told in it. -/
theorem Behind.told {answer : Answer}
    (h : Behind world deadline gate handler request trace answer)
    (decision : RateLimit.Decision) :
    Told world deadline gate handler request trace decision
      (answer.bind (addQuota gate.limiter.config.limit.rate decision request)) := by
  cases answer with
  | error panic => exact .panicked panic h
  | ok response => exact told_addQuota decision response

/-- All the ways in which a request can be counted, with what its answer tells of that. -/
inductive Counted (world : World σ) (deadline : Option Duration) (gate : Gate) (handler : Handler)
    (request : Http.Request) (ending : Ending Answer) (trace : List Entry) : Prop
  | undecided
      (hNone : ∀ decision, .answered (counting gate request) (some (.ok decision)) ∉ trace)
      (hAnswer : ∀ answer, ending = .finished answer →
        Behind world deadline gate handler request trace answer) :
      Counted world deadline gate handler request ending trace
  | decided (decision : RateLimit.Decision)
      (hOnly : ∀ other,
        .answered (counting gate request) (some (.ok other)) ∈ trace ↔ other = decision)
      (hAnswer : ∀ answer, ending = .finished answer →
        Told world deadline gate handler request trace decision answer) :
      Counted world deadline gate handler request ending trace

/-- Where nobody was counted there is no decision to tell. -/
theorem Uncounted.undecided {ending : Ending Answer} (h : Uncounted trace)
    (hAnswer : ∀ answer, ending = .finished answer →
      Behind world deadline gate handler request trace answer) :
    Counted world deadline gate handler request ending trace :=
  .undecided (fun _ hMem => h _ (mem_callsOf_of_answered hMem) trivial) hAnswer

theorem yields_refusal_tenantFor (gate : Gate) (request : Http.Request) :
    (tenantFor gate request).Yields fun found =>
      ∀ answer, found = .error answer → answer = Answer.refuse .tenantUnresolved := by
  unfold tenantFor
  dsimp only
  split
  · rintro answer ⟨⟩
    rfl
  · refine (Program.yields_true _).bind fun found _ => ?_
    cases found with
    | error error =>
        rintro answer ⟨⟩
        rfl
    | ok id => nofun

/-- What becomes of a request once its count was replied to. -/
theorem counted_of_reply {before after : List Entry} (hBefore : Uncounted before)
    (hAfter : Uncounted after) (reply : CountReply) (events : List Event) {ending : Ending Answer}
    (hUndecided : (∀ decision, reply ≠ some (.ok decision)) → ∀ answer,
      ending = .finished answer → Behind world deadline gate handler request after answer)
    (hDecided : ∀ decision, reply = some (.ok decision) → ∀ answer,
      ending = .finished answer → Told world deadline gate handler request after decision answer) :
    Counted world deadline gate handler request ending
      (before ++ .answered (counting gate request) reply ::
        (events.map Entry.logged ++ after)) := by
  have hLast : after <:+: before ++ .answered (counting gate request) reply ::
      (events.map Entry.logged ++ after) :=
    ⟨before ++ .answered (counting gate request) reply :: events.map Entry.logged, [], by simp⟩
  have hReplied : Replied gate request (before ++ .answered (counting gate request) reply ::
      (events.map Entry.logged ++ after)) reply :=
    replied_of_uncounted hBefore ((uncounted_events events).append hAfter) reply
  rcases admissionOf_cases gate.limiter reply with ⟨decision, rfl⟩ | ⟨hReply, -⟩
  · refine .decided decision (fun other => ?_) fun answer hEnding =>
      (hDecided decision rfl answer hEnding).mono hLast
    rw [hReplied]
    simp
  · refine .undecided (fun decision hMem => ?_) fun answer hEnding =>
      (hUndecided hReply answer hEnding).mono hLast
    exact hReply decision ((hReplied _).mp hMem).symm

/-- What the limiter answers itself, given what was decided. -/
theorem answer_of_limitedBy {reply : CountReply} {answer : Answer}
    (h : limitedBy gate request (admissionOf gate.limiter reply) = .error answer) :
    ((∀ decision, reply ≠ some (.ok decision)) →
      answer = Answer.refuse .rateLimitUnavailable) ∧
    ∀ decision, reply = some (.ok decision) → answer = deniedAnswer gate request decision := by
  constructor
  · intro hReply
    rcases admissionOf_cases gate.limiter reply with ⟨decision, hDecided⟩ | ⟨-, hMode⟩
    · exact (hReply decision hDecided).elim
    · rw [hMode] at h
      cases hFail : gate.limiter.failMode with
      | lenient =>
          rw [hFail] at h
          cases h
      | strict =>
          rw [hFail] at h
          cases h
          rfl
  · rintro decision rfl
    rw [admissionOf, limitedBy] at h
    split at h
    · cases h
    · cases h
      rfl

/-- How the limiter tells a later answer, given what was decided. -/
theorem tell_of_limitedBy {reply : CountReply} {tell : Answer → Answer}
    (h : limitedBy gate request (admissionOf gate.limiter reply) = .ok tell) :
    ((∀ decision, reply ≠ some (.ok decision)) → tell = id) ∧
    ∀ decision, reply = some (.ok decision) → tell = fun answer =>
      answer.bind (addQuota gate.limiter.config.limit.rate decision request) := by
  constructor
  · intro hReply
    rcases admissionOf_cases gate.limiter reply with ⟨decision, hDecided⟩ | ⟨-, hMode⟩
    · exact (hReply decision hDecided).elim
    · rw [hMode] at h
      cases hFail : gate.limiter.failMode with
      | lenient =>
          rw [hFail] at h
          cases h
          rfl
      | strict =>
          rw [hFail] at h
          cases h
  · rintro decision rfl
    rw [admissionOf, limitedBy] at h
    split at h
    · cases h
      rfl
    · cases h

/-- Behind the tenant every run is counted, or has come to no decision. -/
theorem counted_of_tenantFor (tenant : Tenant) {before : List Entry} (hBefore : Uncounted before)
    (entry : Scene σ) :
    let outcome := (((quotaFor gate request).bind fun
      | .error answer => .done answer
      | .ok tell => (serveCounted gate access handler request tenant).bind fun answer =>
        .done (tell answer)).run world deadline entry).behind before
    Counted world deadline gate handler request outcome.ending outcome.trace := by
  have hQuota := run_quotaFor_eq world deadline gate request entry
  dsimp only at hQuota ⊢
  rw [Program.run_bind]
  generalize (quotaFor gate request).run world deadline entry = quota at hQuota ⊢
  obtain ⟨ending, after, trace⟩ := quota
  dsimp only at hQuota
  rcases hQuota with ⟨holds, rfl, rfl⟩ | ⟨reply, events, rfl, rfl⟩
  · rw [Outcome.andThen_of_dropped rfl]
    refine .undecided (fun decision hMem => ?_) nofun
    rcases List.mem_append.mp hMem with hMem | hMem
    · exact hBefore _ (mem_callsOf_of_answered hMem) trivial
    · cases List.mem_singleton.mp hMem
  · rw [Outcome.andThen_of_finished rfl]
    cases hLimited : limitedBy gate request (admissionOf gate.limiter reply) with
    | error answer =>
        obtain ⟨hUndecided, hDecided⟩ := answer_of_limitedBy hLimited
        refine counted_of_reply hBefore uncounted_nil reply events ?_ ?_
        · rintro hReply _ ⟨⟩
          rw [hUndecided hReply]
          exact .refused _
        · rintro decision hReply _ ⟨⟩
          rw [hDecided decision hReply]
          exact told_deniedAnswer decision
    | ok tell =>
        obtain ⟨hUndecided, hDecided⟩ := tell_of_limitedBy hLimited
        obtain ⟨hAfter, hBehind⟩ := run_serveCounted world deadline gate access handler request
          after tenant
        dsimp only
        rw [Program.run_map]
        generalize (serveCounted gate access handler request tenant).run world deadline after =
          served at hAfter hBehind ⊢
        refine counted_of_reply hBefore hAfter reply events ?_ ?_
        · intro hReply answer hAnswer
          obtain ⟨inner, hInner, rfl⟩ := Ending.finished_of_map hAnswer
          rw [hUndecided hReply]
          exact hBehind inner hInner
        · intro decision hReply answer hAnswer
          obtain ⟨inner, hInner, rfl⟩ := Ending.finished_of_map hAnswer
          rw [hDecided decision hReply]
          exact (hBehind inner hInner).told decision

variable (world deadline gate access handler request scene) in
theorem counted_of_apply :
    let outcome := (apply gate access handler request).run world deadline scene
    Counted world deadline gate handler request outcome.ending outcome.trace := by
  dsimp only
  rw [apply_eq_serveCounted, Program.run_bind]
  have hTenant : Uncounted ((tenantFor gate request).run world deadline scene).trace :=
    uncounted_tenantFor
  cases hFound : ((tenantFor gate request).run world deadline scene).ending with
  | dropped holds =>
      rw [Outcome.andThen_of_dropped hFound]
      exact hTenant.undecided nofun
  | finished found =>
      rw [Outcome.andThen_of_finished hFound]
      have hRefused := (yields_refusal_tenantFor gate request).run hFound
      cases found with
      | error answer =>
          obtain rfl := hRefused answer rfl
          refine (hTenant.append uncounted_nil).undecided ?_
          rintro answer ⟨⟩
          exact .refused _
      | ok tenant => exact counted_of_tenantFor tenant hTenant _

/-! ## Decisions that cannot be told -/

/-- The store has decided on the request, and its decision cannot be told. -/
def Untold (gate : Gate) (request : Http.Request) (trace : List Entry) : Prop :=
  ∃ decision, .answered (counting gate request) (some (.ok decision)) ∈ trace ∧
    ¬ Tellable request decision

/-- What the limiter makes of a reply can be told just if the trace shows no decision to the
contrary. -/
theorem telling_eq_ok_of_replied {trace : List Entry} {reply : CountReply}
    (h : Replied gate request trace reply) :
    telling request (admissionOf gate.limiter reply) = .ok () ↔ ¬ Untold gate request trace := by
  rw [telling_eq_ok_iff, Untold, not_exists]
  simp only [not_and, not_not]
  refine forall_congr' fun decision => imp_congr_left ?_
  rw [h]
  rcases admissionOf_cases gate.limiter reply with ⟨decided, rfl⟩ | ⟨hReply, hAdmission⟩
  · simp [admissionOf, eq_comm]
  · refine iff_of_false ?_ fun hDecision => hReply decision hDecision.symm
    rw [hAdmission]
    cases gate.limiter.failMode <;> nofun

/-- A response in which the quota is told reaches the client with its status and its body. Where the
quota cannot be told, the client is told of a failure. -/
theorem recovered_tellQuota {trace : List Entry} {reply : CountReply}
    (h : Replied gate request trace reply) (response : Http.Response) :
    let answer := Site.recovered
      (tellQuota gate request (admissionOf gate.limiter reply) (.ok response))
    (Untold gate request trace → answer = Refusal.internal.response) ∧
      (¬ Untold gate request trace →
        answer.status = response.status ∧ answer.body = response.body) := by
  intro answer
  constructor
  · intro hUntold
    cases hTelling : telling request (admissionOf gate.limiter reply) with
    | ok _ => exact ((telling_eq_ok_of_replied h).mp hTelling hUntold).elim
    | error panic =>
        dsimp only [answer]
        rw [tellQuota_error gate hTelling]
        rfl
  · intro hTold
    obtain ⟨told, hTelling, hAgrees⟩ :=
      tellQuota_ok gate ((telling_eq_ok_of_replied h).mpr hTold) response
    dsimp only [answer]
    rw [hTelling]
    exact hAgrees

/-- Events are no replies. -/
theorem replied_append_events_iff {trace : List Entry} {reply : CountReply} (events : List Event) :
    Replied gate request (trace ++ events.map .logged) reply ↔ Replied gate request trace reply := by
  refine forall_congr' fun other => iff_congr ?_ Iff.rfl
  simp

/-- At a clock that can be read, it is for want of room that a decision cannot be told. -/
theorem untold_iff_overflows (hClock : 0 ≤ request.now ∧ request.now ≤ Clock.last)
    {trace : List Entry} :
    Untold gate request trace ↔ ∃ decision,
      .answered (counting gate request) (some (.ok decision)) ∈ trace ∧
        Overflows request.now decision.resetAfter := by
  refine exists_congr fun decision => and_congr_right fun _ => ⟨fun h => ?_, fun h hTold => hTold.room h⟩
  exact not_not.mp fun hRoom => h ⟨hClock.1, hClock.2, hRoom⟩

/-! ## What the client is told -/

/-- What was not counted later does not matter to whether the store has decided. -/
theorem decided_mem_append_iff {trace later : List Entry} (h : Uncounted later)
    (decision : RateLimit.Decision) :
    .answered (counting gate request) (some (.ok decision)) ∈ trace ++ later ↔
      .answered (counting gate request) (some (.ok decision)) ∈ trace := by
  rw [List.mem_append]
  exact or_iff_left fun hMem => h _ (mem_callsOf_of_answered hMem) trivial

/-- The client is told of the quota, or it is not because the request came to a panic behind the
limiter or for want of a reset second, or because it was dropped. -/
inductive Informs (world : World σ) (deadline : Option Duration) (gate : Gate) (handler : Handler)
    (request : Http.Request) (ending : Ending Answer) (trace : List Entry)
    (decision : RateLimit.Decision) (response : Http.Response) : Prop
  | told (inner : Http.Response) (hEnding : ending = .finished (.ok inner)) (reset : Int)
      (hReset : resetOf request decision = .ok reset)
      (h : TellsQuota gate.limiter.config.limit.rate decision reset response) :
      Informs world deadline gate handler request ending trace decision response
  | panicked (panic : Panic) (hEnding : ending = .finished (.error panic))
      (hCause : resetOf request decision = .error panic ∨
        Behind world deadline gate handler request trace (.error panic))
      (hStatus : response.status = 500) (h : TellsNoQuota response) :
      Informs world deadline gate handler request ending trace decision response
  | dropped (holds : List Hold) (hEnding : ending = .dropped holds)
      (hStatus : response.status = 408) (h : TellsNoQuota response) :
      Informs world deadline gate handler request ending trace decision response

/-- What a response that has gone through the boundary tells of a decision. -/
theorem Told.informs {decision : RateLimit.Decision} {answer : Answer}
    (h : Told world deadline gate handler request trace decision answer) {ending : Ending Answer}
    (hEnding : ending = .finished answer) {response : Http.Response}
    (hStatus : response.status = (Site.recovered answer).status)
    (hAgrees : AgreesOnQuota response (Site.recovered answer)) :
    Informs world deadline gate handler request ending trace decision response := by
  cases h with
  | told reset hReset inner hTold =>
      exact .told inner hEnding reset hReset (hTold.congr hAgrees)
  | untellable panic hReset =>
      exact .panicked panic hEnding (.inl hReset) hStatus
        ((tellsNoQuota_refusal .internal).congr hAgrees)
  | panicked panic hBehind =>
      exact .panicked panic hEnding (.inr hBehind) hStatus
        ((tellsNoQuota_refusal .internal).congr hAgrees)

/-- Without a decision, a response tells of the quota what the handler has told of it. -/
theorem Behind.silent {answer : Answer}
    (h : Behind world deadline gate handler request trace answer)
    {response : Http.Response} (hAgrees : AgreesOnQuota response (Site.recovered answer)) :
    TellsNoQuota response ∨
      ∃ inner, Handles world deadline handler request trace (.ok inner) ∧
        AgreesOnQuota response inner := by
  cases h with
  | refused refusal => exact .inl ((tellsNoQuota_refusal refusal).congr hAgrees)
  | brokenOff => exact .inl ((tellsNoQuota_refusal .internal).congr hAgrees)
  | handled answer hHandled =>
      cases answer with
      | error panic => exact .inl ((tellsNoQuota_refusal .internal).congr hAgrees)
      | ok inner => exact .inr ⟨inner, hHandled, hAgrees⟩

/-- Whatever becomes of a request for which the counter store has decided, its response tells the
quota just if the stages have come to a response in time. After a panic of the handler, of verifying
the token, or of the limiter itself for want of a reset second, and after a timeout, the client is
told nothing of it. Where the store has not decided, no header of the quota comes from the limiter:
there is none, or it is the handler's. A client that stays is always answered. -/
theorem quota_told_unless_broken_off {server : Site.Server} {timeout : Duration}
    (hTimeout : server.timeout = some timeout) {route : Site.Route}
    (hRoute : Site.find? server.routes request = some route)
    (hServe : route.serve = apply gate access handler) (world : World σ)
    (patience : Site.Patience) (freshId : Bytes) (scene : Scene σ) :
    let deadline := server.limit patience
    let ending := ((apply gate access handler request).run world deadline scene).ending
    let received := server.receive world patience freshId request scene
    (patience = .stays → ∃ response, received.1 = .response response) ∧
    ∀ response, received.1 = .response response →
      (∀ decision, .answered (counting gate request) (some (.ok decision)) ∈ received.2.2 →
        Informs world deadline gate handler request ending received.2.2 decision response) ∧
      ((∀ decision, .answered (counting gate request) (some (.ok decision)) ∉ received.2.2) →
        TellsNoQuota response ∨
          ∃ inner, Handles world deadline handler request received.2.2 (.ok inner) ∧
            AgreesOnQuota response inner) := by
  dsimp only
  refine ⟨fun hStays => hStays ▸ Site.Server.exists_response_of_stays hTimeout, ?_⟩
  intro response hResponse
  have hRouted : Site.dispatch server.routes request = apply gate access handler request := by
    rw [Site.dispatch, hRoute, ← hServe]
  have hAnswering := Site.Server.answering_of_receive hTimeout hResponse
  rw [hRouted] at hAnswering
  have hCounted := counted_of_apply world (server.limit patience) gate access handler request scene
  dsimp only at hCounted
  generalize (server.receive world patience freshId request scene).2.2 = trace at hAnswering ⊢
  generalize (apply gate access handler request).run world (server.limit patience) scene = routed
    at hAnswering hCounted ⊢
  cases hAnswering with
  | tooLarge hLarge =>
      refine ⟨nofun, fun _ => .inl (TellsNoQuota.congr ?_ (agreesOnQuota_boundary _ _ _ _))⟩
      exact fun name hName => tellsNoQuota_contentType _ _ _ name hName
  | timedOut holds hEnding runtime =>
      have hSilent : TellsNoQuota (Site.complete (Site.find? server.routes request) request
          (.bare 408)) := (tellsNoQuota_bare 408).congr (fun name hName =>
            agreesOnQuota_complete _ _ _ name hName)
      exact ⟨fun decision _ => .dropped holds hEnding (by simp [Http.Response.bare]) hSilent,
        fun _ => .inl hSilent⟩
  | answered answer hEnding =>
      have hSeen : routed.trace <:+: routed.trace ++ (Site.panicEvents answer).map Entry.logged :=
        (List.prefix_append _ _).isInfix
      simp only [decided_mem_append_iff (uncounted_events _)]
      cases hCounted with
      | undecided hNone hBehind =>
          exact ⟨fun decision hMem => (hNone decision hMem).elim, fun _ =>
            ((hBehind answer hEnding).mono hSeen).silent (agreesOnQuota_boundary _ _ _ _)⟩
      | decided decided hOnly hTold =>
          refine ⟨fun decision hMem => ?_, fun hNone => (hNone decided ((hOnly _).mpr rfl)).elim⟩
          rw [(hOnly decision).mp hMem]
          exact ((hTold answer hEnding).mono hSeen).informs hEnding (by simp)
            (agreesOnQuota_boundary _ _ _ _)

/-- Tells a quota of its own. -/
def boastingHandler : Handler := fun _ _ =>
  .done (.ok (((Http.Response.bare 200).addHeader "x-ratelimit-limit" "1000").addHeader
    "x-ratelimit-limit" "2000"))

def sampleDecision : RateLimit.Decision := ⟨true, 0, .zero, .zero⟩

/-- Routes of which one leads to a handler. -/
def sampleServer (handler : Handler) : Site.Server :=
  ⟨[⟨"/", false, apply sampleGate .everyone handler⟩], some (.ofSeconds 30)⟩

/-- A handler that tells a quota of its own is overruled. -/
theorem boasting_handler_corrected :
    let received := (sampleServer boastingHandler).receive (sampleWorld .zero) .stays []
      sampleRequest (.fresh ())
    .answered (counting sampleGate sampleRequest) (some (.ok sampleDecision)) ∈ received.2.2 ∧
      ∃ response, received.1 = .response response ∧ response.status = 200 ∧
        TellsQuota 1 sampleDecision 0 response := by
  intro received
  have hDecided : .answered (counting sampleGate sampleRequest) (some (.ok sampleDecision)) ∈
      received.2.2 := List.mem_of_getElem? (i := 1) rfl
  have hRoute : Site.find? (sampleServer boastingHandler).routes sampleRequest =
      some ⟨"/", false, apply sampleGate .everyone boastingHandler⟩ := rfl
  obtain ⟨hAnswered, hTold⟩ := quota_told_unless_broken_off rfl hRoute rfl (sampleWorld .zero)
    .stays [] (.fresh ())
  obtain ⟨response, hResponse⟩ := hAnswered rfl
  have hStatus : response.status = 200 := by
    cases hResponse.symm.trans (show received.1 = .response _ from rfl)
    rfl
  refine ⟨hDecided, response, hResponse, hStatus, ?_⟩
  cases (hTold response hResponse).1 sampleDecision hDecided with
  | told inner hEnding reset hReset hTells =>
      cases hReset
      exact hTells
  | panicked panic hEnding _ hFailed =>
      rw [hStatus] at hFailed
      cases hFailed
  | dropped holds hEnding hLate =>
      rw [hStatus] at hLate
      cases hLate

def breakingHandler : Handler := fun _ _ => .done (.error (.text "no row"))

/-- The store has decided, the handler comes to a panic, and the client is told nothing of the
decision. -/
theorem panicking_handler_untold :
    let received := (sampleServer breakingHandler).receive (sampleWorld .zero) .stays []
      sampleRequest (.fresh ())
    .answered (counting sampleGate sampleRequest) (some (.ok sampleDecision)) ∈ received.2.2 ∧
      ∃ response, received.1 = .response response ∧ response.status = 500 ∧
        TellsNoQuota response := by
  intro received
  have hDecided : .answered (counting sampleGate sampleRequest) (some (.ok sampleDecision)) ∈
      received.2.2 := List.mem_of_getElem? (i := 1) rfl
  have hSilent : TellsNoQuota (Site.complete
      (Site.find? (sampleServer breakingHandler).routes sampleRequest) sampleRequest
      (Site.addRequestId [] Refusal.internal.response)) :=
    (tellsNoQuota_refusal .internal).congr (agreesOnQuota_boundary _ _ _ _)
  exact ⟨hDecided, _, rfl, rfl, hSilent⟩

end Gatehouse.Pipeline
