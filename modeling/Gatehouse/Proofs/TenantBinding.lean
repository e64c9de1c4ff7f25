import Gatehouse.Proofs.Serving

/-! Tenant binding. A handler only ever runs on a transaction that was begun for its request and
bound to the tenant that the dispatcher has for the host of the request. -/
namespace Gatehouse.Pipeline

variable {σ : Type} {world : World σ} {deadline : Option Duration} {gate : Gate} {access : Access}
    {request : Http.Request} {scene : Scene σ}

/-- What holds when a handler is called, with this context, at this entry and after all that was
seen before: its tenant is the dispatcher's answer for the label of the host, and its transaction
was begun and then bound to that tenant, with no other operation on it. -/
structure CallsBound (world : World σ) (deadline : Option Duration) (gate : Gate)
    (access : Access) (request : Http.Request) (scene : Scene σ) (tenant : Tenant)
    (context : Context) (before : List Entry) (entry : Scene σ) : Prop where
  dispatched : ∃ label, Tenant.requestLabel? request.headers request.target = some label ∧
    tenant.domain = String.ofList label ∧
    ((gate.tenants.find tenant.domain).run world deadline scene).ending = .finished (.ok tenant.id)
  bound : ∃ earlier, (∀ call ∈ callsOf earlier, IsPreliminary call) ∧
    before = earlier ++ [.answered .begin (.ok ()),
      .answered (.bind gate.tenantSetting tenant.id) (.ok ())]
  fresh : entry.handle = ⟨.hold (), false⟩
  tenantShown : context.requireTenant = .done (.ok tenant)
  transactionShown : context.requireTransaction = .done (.ok tenant.id)
  claimsShown : access = .bearer → ∃ claims, context.requireClaims = .done (.ok claims) ∧
    Shows gate request claims ∧ claims.tenantId = tenant.id

/-- The transaction of a request that is admitted has its tenant bound. -/
theorem callsBound_of_admitted {admitted : Admitted}
    (h : ((approach gate access request).run world deadline scene).ending =
      .finished (.ok admitted)) :
    let before := (approach gate access request).run world deadline scene
    CallsBound world deadline gate access request scene admitted.tenant admitted.context
      before.trace { before.scene with handle := ⟨.hold (), false⟩ } := by
  obtain ⟨hAdmits, earlier, hEarlier, hTrace⟩ := approach_admitted h
  refine ⟨hAdmits.tenant, ⟨earlier, hEarlier, hTrace⟩, rfl, rfl, rfl, ?_⟩
  intro hBearer
  subst hBearer
  obtain ⟨claims, hClaims, hShows, hTenant⟩ := hAdmits.claims
  refine ⟨claims, ?_, hShows, hTenant⟩
  simp [Context.requireClaims, Admitted.context, hClaims]

theorem not_isWork_of_isPreliminary {call : Call} (h : IsPreliminary call) : ¬ IsWork call := by
  cases call <;> first | exact h.elim | exact fun hWork => hWork

/-- Nothing that happens before a handler is work on a transaction. -/
theorem not_isWork_of_approach (call : Call)
    (h : call ∈ callsOf ((approach gate access request).run world deadline scene).trace) :
    ¬ IsWork call := by
  rcases approach_calls call h with hCall | rfl | rfl | ⟨admitted, -, rfl⟩
  · exact not_isWork_of_isPreliminary hCall
  · exact fun hWork => hWork
  · exact fun hWork => hWork
  · exact fun hWork => hWork

/-- A transaction is only ever bound to the dispatcher's answer for the label of the host. -/
theorem bind_of_apply {handler : Handler} {name value : String}
    (h : .bind name value ∈ callsOf
      ((apply gate access handler request).run world deadline scene).trace) :
    name = gate.tenantSetting ∧
      ∃ label, Tenant.requestLabel? request.headers request.target = some label ∧
        ((gate.tenants.find (String.ofList label)).run world deadline scene).ending =
          .finished (.ok value) := by
  have hApproach : .bind name value ∈ callsOf
      ((approach gate access request).run world deadline scene).trace := by
    cases hEnding : ((approach gate access request).run world deadline scene).ending with
    | dropped holds => rwa [run_apply_of_dropped hEnding] at h
    | finished result =>
        cases result with
        | error answer => rwa [run_apply_of_answered hEnding] at h
        | ok admitted =>
            obtain ⟨ending, rest, -, hTrace, hServing⟩ := run_apply_of_admitted hEnding handler
            obtain ⟨after, rfl, hAfter⟩ := hServing.trace_eq
            obtain ⟨hWork, -, -⟩ := handling_works world deadline handler request admitted.context
              ((approach gate access request).run world deadline scene).scene
            rw [hTrace, callsOf_append, callsOf_append, List.mem_append, List.mem_append] at h
            rcases h with h | h | h
            · exact h
            · exact (hWork _ h).elim
            · rcases hAfter _ h with h | h | h <;> cases h
  rcases approach_calls _ hApproach with hCall | hCall | hCall | ⟨admitted, hAdmits, hCall⟩
  · exact hCall.elim
  · cases hCall
  · cases hCall
  · cases hCall
    obtain ⟨label, hLabel, hDomain, hFound⟩ := hAdmits.tenant
    exact ⟨rfl, label, hLabel, hDomain ▸ hFound⟩

/-- Whatever the directory, the counter store and the database answer, a request is either turned
away with no work done on any transaction, in the same way for every handler, or its handler is
called bound to its tenant. All work is then that of the handler, on the transaction in the slot,
and after it that transaction is only taken out and finished. The tenant that is bound depends on
the host alone: no other request for the same label, with whatever token, key or access, binds
another one. -/
theorem handler_runs_bound_to_tenant (world : World σ) (deadline : Option Duration) (gate : Gate)
    (access : Access) (request : Http.Request) (scene : Scene σ) :
    ((∃ outcome, (∀ handler,
          (apply gate access handler request).run world deadline scene = outcome) ∧
        ∀ call ∈ callsOf outcome.trace, ¬ IsWork call) ∨
      ∃ tenant context before entry,
        CallsBound world deadline gate access request scene tenant context before entry ∧
        ∀ handler : Handler,
          let handled := (handler request context).toProgram.run world deadline entry
          (∀ call ∈ callsOf handled.trace, IsWork call) ∧ handled.scene.handle.slot = .hold () ∧
          ∃ after, ((apply gate access handler request).run world deadline scene).trace =
              before ++ handled.trace ++ after ∧
            ∀ call ∈ callsOf after, IsClosing call) ∧
    ∀ handler name value, .bind name value ∈ callsOf
        ((apply gate access handler request).run world deadline scene).trace →
      name = gate.tenantSetting ∧
      ∀ (gate' : Gate) (access' : Access) (request' : Http.Request) (handler' : Handler)
        (name' value' : String), gate'.tenants = gate.tenants →
        Tenant.requestLabel? request'.headers request'.target =
          Tenant.requestLabel? request.headers request.target →
        .bind name' value' ∈ callsOf
          ((apply gate' access' handler' request').run world deadline scene).trace →
        value' = value := by
  refine ⟨?_, ?_⟩
  · cases hEnding : ((approach gate access request).run world deadline scene).ending with
    | dropped holds =>
        exact .inl ⟨_, run_apply_of_dropped hEnding, not_isWork_of_approach⟩
    | finished result =>
        cases result with
        | error answer =>
            exact .inl ⟨_, run_apply_of_answered hEnding, not_isWork_of_approach⟩
        | ok admitted =>
            refine .inr ⟨_, _, _, _, callsBound_of_admitted hEnding, fun handler => ?_⟩
            obtain ⟨hWork, hSlot, -⟩ := handling_works world deadline handler request
              admitted.context ((approach gate access request).run world deadline scene).scene
            obtain ⟨ending, rest, -, hTrace, hServing⟩ := run_apply_of_admitted hEnding handler
            obtain ⟨after, rfl, hAfter⟩ := hServing.trace_eq
            refine ⟨hWork, hSlot, after, ?_, hAfter⟩
            rw [hTrace, List.append_assoc]
            rfl
  · intro handler name value h
    obtain ⟨hName, label, hLabel, hFound⟩ := bind_of_apply h
    refine ⟨hName, ?_⟩
    intro gate' access' request' handler' name' value' hTenants hSame h'
    obtain ⟨-, label', hLabel', hFound'⟩ := bind_of_apply h'
    rw [hSame, hLabel] at hLabel'
    cases hLabel'
    rw [hTenants, hFound] at hFound'
    cases hFound'
    rfl

end Gatehouse.Pipeline
