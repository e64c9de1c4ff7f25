import Gatehouse.Proofs.Serving

/-! What a client is told by the stages. A request that does not reach its handler is told of an
error, and the response of a handler is told as it is but for its headers, so that a success that is
told is that of the handler. -/
namespace Gatehouse.Pipeline

variable {σ : Type} {world : World σ} {deadline : Option Duration} {gate : Gate} {access : Access}
    {request : Http.Request} {scene : Scene σ}

/-! ## Refusals -/

/-- A response that tells of an error, or no response. -/
def Refuses (answer : Answer) : Prop :=
  ∀ response, answer = .ok response → 400 ≤ response.status

theorem refuses_refuse (refusal : Refusal) : Refuses (Answer.refuse refusal) := by
  intro response h
  cases h
  change 400 ≤ refusal.status
  cases refusal <;> simp [Refusal.status]

theorem refuses_panic (panic : Panic) : Refuses (.error panic) := by
  intro response h
  cases h

/-- No response but that to the request itself is told, and of that the status and the body. -/
def Relays (tell : Answer → Answer) : Prop :=
  ∀ answer response, tell answer = .ok response →
    ∃ inner, answer = .ok inner ∧ inner.status = response.status ∧ inner.body = response.body

/-- What is relayed of a refusal refuses. -/
theorem Relays.refuses {tell : Answer → Answer} (h : Relays tell) {answer : Answer}
    (hAnswer : Refuses answer) : Refuses (tell answer) := by
  intro response hResponse
  obtain ⟨inner, hInner, hStatus, -⟩ := h answer response hResponse
  rw [← hStatus]
  exact hAnswer inner hInner

/-- The quota is told beside the answer, whose status and body stay. -/
theorem addQuota_tells {rate : Nat} {decision : RateLimit.Decision}
    {inner response : Http.Response} (h : addQuota rate decision request inner = .ok response) :
    inner.status = response.status ∧ inner.body = response.body := by
  cases hReset : resetOf request decision with
  | error panic =>
      rw [addQuota_error hReset] at h
      cases h
  | ok reset =>
      rw [addQuota_ok hReset] at h
      cases h
      exact ⟨rfl, rfl⟩

/-- An answer whose quota cannot be told becomes a panic, which refuses as well. -/
theorem relays_addQuota (rate : Nat) (decision : RateLimit.Decision) :
    Relays fun answer => answer.bind (addQuota rate decision request) := by
  intro answer response h
  cases answer with
  | error panic => cases h
  | ok inner => exact ⟨inner, rfl, addQuota_tells h⟩

/-- Whoever has to wait is refused. -/
theorem refuses_tooManyRequests (rate wait : Nat) (decision : RateLimit.Decision) :
    Refuses ((addQuota rate decision request (tooManyRequests wait)).map fun response =>
      response.setHeader "retry-after" (toString wait)) := by
  intro response h
  cases hTold : addQuota rate decision request (tooManyRequests wait) with
  | error panic =>
      rw [hTold] at h
      cases h
  | ok told =>
      rw [hTold] at h
      cases h
      have hStatus : 429 = told.status := (addQuota_tells hTold).1
      change 400 ≤ told.status
      omega

/-- A stage refuses its request, or lets it pass with something good. -/
def Halts {α : Type} (good : α → Prop) : Except Answer α → Prop
  | .error answer => Refuses answer
  | .ok value => good value

/-- A tenant is found, or the request is refused. -/
theorem yields_tenantFor (gate : Gate) (request : Http.Request) :
    (tenantFor gate request).Yields (Halts fun _ => True) := by
  unfold tenantFor
  dsimp only
  split
  · exact refuses_refuse .tenantUnresolved
  · refine (Program.yields_true _).bind fun found _ => ?_
    cases found with
    | error error => exact refuses_refuse .tenantUnresolved
    | ok id => trivial

/-- A request is counted and told so, or it is refused. -/
theorem yields_quotaFor (gate : Gate) (request : Http.Request) :
    (quotaFor gate request).Yields (Halts Relays) := by
  refine (Program.yields_true _).bind fun admission _ => ?_
  cases admission with
  | failedOpen => exact fun answer response h => ⟨response, h, rfl, rfl⟩
  | failedClosed => exact refuses_refuse .rateLimitUnavailable
  | decided decision =>
      dsimp only
      split
      · exact relays_addQuota _ decision
      · exact refuses_tooManyRequests _ _ decision

theorem yields_reject (reason : UnauthorizedReason) (details : List (String × String))
    {α : Type} {good : α → Prop} :
    ((reject reason details).bind fun answer => .done (.error answer)).Yields (Halts good) :=
  refuses_refuse (.unauthorized reason)

/-- A token is verified, or the request is refused. -/
theorem yields_claimsFor (gate : Gate) (access : Access) (request : Http.Request)
    (tenant : Tenant) : (claimsFor gate access request tenant).Yields (Halts fun _ => True) := by
  unfold claimsFor
  split
  · trivial
  · split
    · exact yields_reject _ _
    · dsimp only
      split
      · exact refuses_panic _
      · split
        · trivial
        · exact yields_reject _ _
      · exact yields_reject _ _

/-- A request that comes through these stages has its answer relayed, and any other is refused. -/
theorem yields_admitRequest (gate : Gate) (access : Access) (request : Http.Request) :
    (admitRequest gate access request).Yields (Halts fun admitted => Relays admitted.tell) := by
  refine (yields_tenantFor gate request).bind fun found hFound => ?_
  cases found with
  | error answer => exact hFound
  | ok tenant =>
      refine (yields_quotaFor gate request).bind fun quota hQuota => ?_
      cases quota with
      | error answer => exact hQuota
      | ok tell =>
          refine (yields_claimsFor gate access request tenant).bind fun shown hShown => ?_
          cases shown with
          | error answer => exact Relays.refuses hQuota hShown
          | ok claims => exact hQuota

theorem yields_opening (setting tenant : String) :
    (opening setting tenant).Yields (Halts fun _ => True) := by
  intro began
  cases began with
  | error error => exact refuses_refuse .internal
  | ok value =>
      intro bound
      cases bound with
      | ok value => trivial
      | error error =>
          exact (Program.yields_true (Program.rollBack "bind_failed")).bind
            fun _ _ => refuses_refuse .internal

theorem yields_approach (gate : Gate) (access : Access) (request : Http.Request) :
    (approach gate access request).Yields (Halts fun admitted => Relays admitted.tell) := by
  refine (yields_admitRequest gate access request).bind fun result hResult => ?_
  cases result with
  | error answer => exact hResult
  | ok admitted =>
      refine (yields_opening gate.tenantSetting admitted.tenant.id).bind fun opened hOpened => ?_
      cases opened with
      | error answer => exact Relays.refuses hResult hOpened
      | ok value => exact hResult

/-! ## Success -/

/-- A handler that was served without an error has told of that. -/
theorem Serving.handled {tenant : String} {handled : Outcome σ Answer} {response : Http.Response}
    {last : Scene σ} {trace : List Entry}
    (h : Serving tenant handled (.finished (.ok response)) last trace)
    (hGood : response.status < 400) : handled.ending = .finished (.ok response) := by
  cases h with
  | closed result hResult _ _ _ rest hFinishing =>
      cases hFinishing with
      | rolledBack => exact hResult
      | committed => exact hResult
      | commitFailed => exact absurd hGood (by decide)

/-- What a client is told of success, its handler has told, after the request was admitted. -/
theorem handled_of_apply {handler : Handler} {response : Http.Response}
    (h : ((apply gate access handler request).run world deadline scene).ending =
      .finished (.ok response)) (hGood : response.status < 400) :
    let before := (approach gate access request).run world deadline scene
    ∃ admitted inner, before.ending = .finished (.ok admitted) ∧
      (handling world deadline handler request admitted.context before.scene).ending =
        .finished (.ok inner) ∧
      inner.status = response.status ∧ inner.body = response.body := by
  intro before
  cases hBefore : before.ending with
  | dropped holds =>
      rw [run_apply_of_dropped hBefore] at h
      cases h
  | finished result =>
      have hResult := (yields_approach gate access request).run hBefore
      cases result with
      | error answer =>
          rw [run_apply_of_answered hBefore] at h
          cases h
          have hBad := hResult response rfl
          omega
      | ok admitted =>
          obtain ⟨ending, rest, hEnding, -, hServing⟩ := run_apply_of_admitted hBefore handler
          rw [h] at hEnding
          obtain ⟨answer, rfl, hTold⟩ := Ending.finished_of_map hEnding.symm
          obtain ⟨inner, rfl, hStatus, hBody⟩ := hResult answer response hTold
          exact ⟨admitted, inner, rfl, hServing.handled (hStatus ▸ hGood), hStatus, hBody⟩

end Gatehouse.Pipeline
