import Gatehouse.Proofs.Mirroring
import Gatehouse.Proofs.Outage
import Mathlib.Data.List.Forall2

/-! What a client is told of failures. Two servers whose surroundings fail in the same way, but with
other texts, and whose handlers differ in the messages of their panics at most, tell a client the
same. The texts go to the log only. -/
namespace Gatehouse

variable {σ τ : Type} {same : σ → τ → Prop} {world : World σ} {other : World τ}

/-! ## Answers and handlers -/

/-- What is left of an answer without the message of a panic. -/
def Answer.untold (answer : Answer) : Answer :=
  answer.mapError fun _ => .other

/-- Both are the same response, or both are panics. -/
def SameTold (first second : Answer) : Prop :=
  Answer.untold first = Answer.untold second

def SettingError.untold : SettingError → SettingError
  | .transaction error => .transaction error.untold
  | .query _ => .query ""

namespace Handling

/-- Two handlers that do the same with their transaction, and go on like each other after answers
that differ in the texts of errors at most. They come to the same response, or both to a panic.
Their events may differ. -/
inductive Mirrors : Handling Answer → Handling Answer → Prop
  | done {answer answer' : Answer} (h : SameTold answer answer') :
      Mirrors (.done answer) (.done answer')
  | log (event event' : Event) {rest rest' : Handling Answer} (h : Mirrors rest rest') :
      Mirrors (.log event rest) (.log event' rest')
  | execute (statement : String) {next next' : Except Database.Error Nat → Handling Answer}
      (h : ∀ answer told, answer.mapError Database.Error.untold =
        told.mapError Database.Error.untold → Mirrors (next answer) (next' told)) :
      Mirrors (.execute statement next) (.execute statement next')
  | readSetting (name : String)
      {next next' : Except SettingError (Option String) → Handling Answer}
      (h : ∀ answer told, answer.mapError SettingError.untold =
        told.mapError SettingError.untold → Mirrors (next answer) (next' told)) :
      Mirrors (.readSetting name next) (.readSetting name next')
  | keep (tenant : String) {rest rest' : Handling Answer} (h : Mirrors rest rest') :
      Mirrors (.keep tenant rest) (.keep tenant rest')
  | pause (duration : Duration) {rest rest' : Handling Answer} (h : Mirrors rest rest') :
      Mirrors (.pause duration rest) (.pause duration rest')

/-- A handler that does nothing with a failure but to report it and to refuse its request. -/
inductive PassesOn : Handling Answer → Prop
  | done (answer : Answer) : PassesOn (.done answer)
  | log (event : Event) {rest : Handling Answer} (h : PassesOn rest) : PassesOn (.log event rest)
  | execute (statement : String) {next : Except Database.Error Nat → Handling Answer}
      (hFails : ∀ error, next (.error error) =
        .log (Refusal.transactionEvent error) (refuse .internal))
      (h : ∀ rows, PassesOn (next (.ok rows))) : PassesOn (.execute statement next)
  | readSetting (name : String) {next : Except SettingError (Option String) → Handling Answer}
      (hFails : ∀ error, next (.error (.transaction error)) =
        .log (Refusal.transactionEvent error) (refuse .internal))
      (hQuery : ∀ detail, next (.error (.query detail)) =
        .log (Refusal.queryEvent detail) (refuse .internal))
      (h : ∀ value, PassesOn (next (.ok value))) : PassesOn (.readSetting name next)
  | keep (tenant : String) {rest : Handling Answer} (h : PassesOn rest) :
      PassesOn (.keep tenant rest)
  | pause (duration : Duration) {rest : Handling Answer} (h : PassesOn rest) :
      PassesOn (.pause duration rest)

/-- A handler that passes failures on does the same whatever their texts are. -/
theorem PassesOn.mirrors {handling : Handling Answer} (h : handling.PassesOn) :
    handling.Mirrors handling := by
  induction h with
  | done answer => exact .done rfl
  | log event _ ih => exact .log event event ih
  | keep tenant _ ih => exact .keep tenant ih
  | pause duration _ ih => exact .pause duration ih
  | execute statement hFails _ ih =>
      apply Mirrors.execute
      intro answer told hUntold
      rcases cases_of_mapError_eq hUntold with ⟨rows, rfl, rfl⟩ | ⟨error, error', rfl, rfl, -⟩
      · exact ih rows
      · rw [hFails, hFails]
        exact .log _ _ (.done rfl)
  | readSetting name hFails hQuery _ ih =>
      apply Mirrors.readSetting
      intro answer told hUntold
      rcases cases_of_mapError_eq hUntold with
        ⟨value, rfl, rfl⟩ | ⟨error, error', rfl, rfl, hKind⟩
      · exact ih value
      · cases error with
        | transaction error =>
            cases error' with
            | transaction error' =>
                rw [hFails, hFails]
                exact .log _ _ (.done rfl)
            | query detail => cases hKind
        | query detail =>
            cases error' with
            | transaction error' => cases hKind
            | query detail' =>
                rw [hQuery, hQuery]
                exact .log _ _ (.done rfl)

end Handling

namespace Program

theorem mirrors_lockTransaction : lockTransaction.Mirrors Eq lockTransaction :=
  .ask .untilFree [] fun _ _ _ => .visit id fun _ => .done rfl

theorem mirrors_takeTransaction : takeTransaction.Mirrors Eq takeTransaction :=
  .ask .untilFree [] fun _ _ _ => .visit _ fun _ => .done rfl

/-- A rollback is told in the same way, whatever was its cause. -/
theorem mirrors_rollBack (cause : String) : (rollBack cause).Mirrors Eq (rollBack cause) := by
  refine .ask .rollback [] fun answer told hUntold => ?_
  rcases cases_of_mapError_eq hUntold with ⟨value, rfl, rfl⟩ | ⟨error, error', rfl, rfl, -⟩
  · exact .done rfl
  · exact .log _ _ (.done rfl)

end Program

/-- Handlers that mirror each other are programs that do. -/
theorem Handling.Mirrors.toProgram {first second : Handling Answer} (h : first.Mirrors second) :
    first.toProgram.Mirrors SameTold second.toProgram := by
  induction h with
  | done hSame => exact .done hSame
  | log event event' _ ih => exact .log event event' ih
  | keep tenant _ ih => exact .ask (.keep tenant) [] fun _ _ _ => .visit _ fun _ => ih
  | pause duration _ ih => exact .ask (.pause duration) [] fun _ _ _ => ih
  | execute statement _ ih =>
      simp only [Handling.toProgram]
      apply Program.mirrors_lockTransaction.bind
      rintro locked _ rfl
      cases locked with
      | error error => exact ih _ _ rfl
      | ok value => exact .ask (.execute statement) [] ih
  | readSetting name _ ih =>
      simp only [Handling.toProgram]
      apply Program.mirrors_lockTransaction.bind
      rintro locked _ rfl
      cases locked with
      | error error => exact ih _ _ rfl
      | ok value =>
          refine .ask (.readSetting name) [] fun answer told hUntold => ?_
          rcases cases_of_mapError_eq hUntold with
            ⟨value, rfl, rfl⟩ | ⟨detail, detail', rfl, rfl, -⟩
          · exact ih _ _ rfl
          · exact ih _ _ rfl

/-! ## Stages -/

namespace Tenant

/-- A dispatcher that is told of the same failures passes the same failures on. -/
theorem mirrors_find (dispatcher : Dispatcher) (domain : String) :
    (dispatcher.find domain).Mirrors
      (fun found found' => found.mapError LookupError.untold = found'.mapError LookupError.untold)
      (dispatcher.find domain) := by
  induction dispatcher with
  | directory => exact .ask (.lookup domain) [] fun _ _ hUntold => .done hUntold
  | table =>
      refine .ask (.lookup domain) [] fun answer told hUntold => ?_
      rcases cases_of_mapError_eq hUntold with
        ⟨id, rfl, rfl⟩ | ⟨error, error', rfl, rfl, hKind⟩
      · exact .done rfl
      · cases error with
        | notFound name =>
            cases error' with
            | notFound name' => exact .done rfl
            | backend detail => cases hKind
        | backend detail =>
            cases error' with
            | notFound name' => cases hKind
            | backend detail' => exact .log _ _ (.done rfl)
  | cached cache inner ih =>
      have hRead : (cache.read domain).Mirrors Eq (cache.read domain) := by
        refine .ask (.readCache _) [] fun answer told hUntold => ?_
        rcases cases_of_mapError_eq hUntold with
          ⟨found, rfl, rfl⟩ | ⟨error, error', rfl, rfl, -⟩
        · exact .done rfl
        · exact .log _ _ (.done rfl)
      have hWrite (id : String) : (cache.write domain id).Mirrors Eq (cache.write domain id) := by
        refine .ask (.writeCache _ _ _) [] fun answer told hUntold => ?_
        rcases cases_of_mapError_eq hUntold with
          ⟨value, rfl, rfl⟩ | ⟨error, error', rfl, rfl, -⟩
        · exact .done rfl
        · exact .log _ _ (.done rfl)
      apply hRead.bind
      rintro cached _ rfl
      cases cached with
      | some id => exact .done rfl
      | none =>
          apply ih.bind
          intro found found' hFound
          rcases cases_of_mapError_eq hFound with ⟨id, rfl, rfl⟩ | ⟨error, error', rfl, rfl, -⟩
          · exact (hWrite id).bind fun _ _ _ => .done rfl
          · exact .done hFound

end Tenant

/-- A limiter decides the same whatever the store says of its failures. -/
theorem RateLimit.Limiter.mirrors_admission (limiter : Limiter) (client : String) :
    (limiter.admission client).Mirrors Eq (limiter.admission client) := by
  refine .ask (.count _ _ _) [] fun answer told hUntold => ?_
  cases answer with
  | none =>
      cases told with
      | none => exact .log _ _ (.done rfl)
      | some told => cases hUntold
  | some answer =>
      cases told with
      | none => cases hUntold
      | some told =>
          rcases cases_of_mapError_eq (Option.some.inj hUntold) with
            ⟨decision, rfl, rfl⟩ | ⟨error, error', rfl, rfl, -⟩
          · exact .done rfl
          · exact .log _ _ (.done rfl)

namespace Pipeline

variable {gate : Gate} {request : Http.Request} {context : Context}
  {next next' : Context → Program Answer}

/-- The tenant is looked for in the same way, and an error of the directory is answered alike. -/
theorem mirrors_resolveTenant
    (hNext : ∀ context, (next context).Mirrors SameTold (next' context)) :
    (resolveTenant gate request context next).Mirrors SameTold
      (resolveTenant gate request context next') := by
  unfold resolveTenant
  dsimp only
  cases (Tenant.effectiveHost? request.headers request.target).bind Tenant.label? with
  | none => exact .log _ _ (.done rfl)
  | some label =>
      apply (Tenant.mirrors_find gate.tenants (String.ofList label)).bind
      intro found found' hFound
      rcases cases_of_mapError_eq hFound with ⟨id, rfl, rfl⟩ | ⟨error, error', rfl, rfl, -⟩
      · exact hNext _
      · exact .log _ _ (.done rfl)

/-- An error of the counter store does not show in the answer, only that there was one. -/
theorem mirrors_limitRate (hNext : (next context).Mirrors SameTold (next' context)) :
    (limitRate gate request context next).Mirrors SameTold
      (limitRate gate request context next') := by
  unfold limitRate
  dsimp only
  apply (RateLimit.Limiter.mirrors_admission gate.limiter _).bind
  rintro admission _ rfl
  cases admission with
  | failedOpen => exact hNext
  | failedClosed => exact .done rfl
  | decided decision =>
      dsimp only
      split
      · apply hNext.bind
        intro answer answer' hSame
        rcases cases_of_mapError_eq hSame with
          ⟨response, rfl, rfl⟩ | ⟨panic, panic', rfl, rfl, -⟩
        · exact .done rfl
        · exact .done rfl
      · exact .log _ _ (.done rfl)

theorem mirrors_checkTenant (claims : Token.Claims)
    (hNext : ∀ context, (next context).Mirrors SameTold (next' context)) :
    (checkTenant context claims next).Mirrors SameTold (checkTenant context claims next') := by
  unfold checkTenant
  split
  · exact hNext _
  · split
    · exact hNext _
    · exact .log _ _ (.done rfl)

/-- The stage makes no call, so nothing of an error could show. -/
theorem mirrors_authorize (access : Access)
    (hNext : ∀ context, (next context).Mirrors SameTold (next' context)) :
    (authorize gate access request context next).Mirrors SameTold
      (authorize gate access request context next') := by
  unfold authorize
  cases access with
  | everyone => exact hNext context
  | bearer =>
      dsimp only
      split
      · exact .log _ _ (.done rfl)
      · split
        · exact .done rfl
        · exact mirrors_checkTenant _ hNext
        · exact .log _ _ (.done rfl)

theorem mirrors_opening (setting tenant : String) :
    (opening setting tenant).Mirrors Eq (opening setting tenant) := by
  refine .ask .begin [] fun answer told hUntold => ?_
  rcases cases_of_mapError_eq hUntold with ⟨value, rfl, rfl⟩ | ⟨error, error', rfl, rfl, -⟩
  · refine .ask (.bind setting tenant) [.transaction] fun answer told hUntold => ?_
    rcases cases_of_mapError_eq hUntold with ⟨value, rfl, rfl⟩ | ⟨error, error', rfl, rfl, -⟩
    · exact .done rfl
    · exact .log _ _ ((Program.mirrors_rollBack "bind_failed").bind fun _ _ _ => .done rfl)
  · exact .log _ _ (.done rfl)

/-- The end of a transaction depends on whether the handler failed, and not on how. -/
theorem mirrors_finish (tenant : String) {answer answer' : Answer} (h : SameTold answer answer') :
    (finish tenant answer).Mirrors SameTold (finish tenant answer') := by
  rcases cases_of_mapError_eq h with ⟨response, rfl, rfl⟩ | ⟨panic, panic', rfl, rfl, -⟩
  · unfold finish
    dsimp only
    split
    · exact (Program.mirrors_rollBack "error_status").bind fun _ _ _ => .done rfl
    · refine .ask .commit [] fun answer told hUntold => ?_
      rcases cases_of_mapError_eq hUntold with ⟨value, rfl, rfl⟩ | ⟨error, error', rfl, rfl, -⟩
      · exact .done rfl
      · exact .log _ _ (.done rfl)
  · exact (Program.mirrors_rollBack "panic").bind fun _ _ _ => .done rfl

theorem mirrors_closing (tenant : String) {answer answer' : Answer} (h : SameTold answer answer') :
    (closing tenant answer).Mirrors SameTold (closing tenant answer') := by
  apply (Program.mirrors_takeTransaction.holding (.rollback tenant)).bind
  rintro taken _ rfl
  cases taken with
  | some value => exact mirrors_finish tenant h
  | none => exact .log _ _ (.done rfl)

variable {handler handler' : Context → Handling Answer}

/-- Handlers that mirror each other do so within their transactions. -/
theorem mirrors_isolate (hHandler : ∀ context, (handler context).Mirrors (handler' context)) :
    (isolate gate context handler).Mirrors SameTold (isolate gate context handler') := by
  cases hTenant : context.tenant with
  | none =>
      unfold isolate
      rw [hTenant]
      exact .log _ _ (.done rfl)
  | some tenant =>
      rw [isolate_eq gate hTenant, isolate_eq gate hTenant]
      apply (mirrors_opening gate.tenantSetting tenant.id).bind
      rintro opened _ rfl
      cases opened with
      | error answer => exact .done rfl
      | ok value =>
          rw [serveBound_eq, serveBound_eq]
          refine .visit _ fun _ => ?_
          apply ((hHandler _).toProgram.holding (.rollback tenant.id)).bind
          exact fun _ _ hSame => mirrors_closing tenant.id hSame

/-- All stages together. -/
theorem mirrors_apply (gate : Gate) (access : Access) (request : Http.Request)
    {handler handler' : Handler}
    (hHandler : ∀ request context, (handler request context).Mirrors (handler' request context)) :
    (apply gate access handler request).Mirrors SameTold
      (apply gate access handler' request) := by
  apply mirrors_resolveTenant
  intro context
  apply mirrors_limitRate
  apply mirrors_authorize
  intro context
  exact mirrors_isolate (hHandler request)

end Pipeline

/-! ## Servers -/

namespace Site

/-- Two services at the same path, for the same clients, whose handlers mirror each other. -/
structure Service.Mirrors (service other : Service) : Prop where
  path : service.path = other.path
  isReadOnly : service.isReadOnly = other.isReadOnly
  access : service.access = other.access
  handler : ∀ request context,
    (service.handler request context).Mirrors (other.handler request context)

/-- Services that mirror each other do so behind the stages. -/
theorem Service.Mirrors.serve {service other : Service} (h : service.Mirrors other) (gate : Gate)
    (request : Http.Request) :
    ((service.route (Pipeline.apply gate)).serve request).Mirrors SameTold
      ((other.route (Pipeline.apply gate)).serve request) := by
  unfold Service.route
  rw [h.access]
  cases other.access with
  | none => exact (h.handler request .fresh).toProgram
  | some access => exact Pipeline.mirrors_apply gate access request h.handler

/-- Services that mirror each other are found for the same requests. -/
theorem find?_of_mirrors {services others : List Service}
    (h : List.Forall₂ Service.Mirrors services others) (request : Http.Request) :
    (services.find? (fun service => service.path.toList == request.target.path) = none ∧
      others.find? (fun service => service.path.toList == request.target.path) = none) ∨
    ∃ service other, service.Mirrors other ∧
      services.find? (fun service => service.path.toList == request.target.path) = some service ∧
      others.find? (fun service => service.path.toList == request.target.path) = some other := by
  induction h with
  | nil => exact .inl ⟨rfl, rfl⟩
  | @cons service other _ _ hMirrors _ ih =>
      simp only [List.find?_cons, hMirrors.path]
      cases other.path.toList == request.target.path with
      | true => exact .inr ⟨service, other, hMirrors, rfl, rfl⟩
      | false => exact ih

/-- A panic is answered without its message, and the same response becomes of both. -/
theorem mirrors_catchPanic {p q : Program Answer} (h : p.Mirrors SameTold q) :
    (catchPanic p).Mirrors Eq (catchPanic q) := by
  apply h.bind
  intro answer answer' hSame
  rcases cases_of_mapError_eq hSame with ⟨response, rfl, rfl⟩ | ⟨panic, panic', rfl, rfl, -⟩
  · exact .done rfl
  · exact .log _ _ (.done rfl)

namespace Server

/-- An attempt comes to the same value, or to none, in surroundings that answer alike. -/
theorem attempt_of_mirrors {α : Type} {p q : Program α} (h : p.Mirrors Eq q)
    (hWorlds : AnswerAlike same world other) {scene : Scene σ} {counterpart : Scene τ}
    (hScenes : scene.Mirrors same counterpart) (timeout : Option Duration) (patience : Patience) :
    (attempt world timeout patience p scene).1 =
      (attempt other timeout patience q counterpart).1 := by
  have hEndings := h.run hWorlds hScenes (patience.limit timeout)
  cases hFirst : (p.run world (patience.limit timeout) scene).ending with
  | finished value =>
      cases hSecond : (q.run other (patience.limit timeout) counterpart).ending with
      | finished result =>
          rw [hFirst, hSecond] at hEndings
          cases hEndings with
          | finished hSame =>
              rw [attempt_of_finished hFirst, attempt_of_finished hSecond, hSame]
      | dropped holds =>
          rw [hFirst, hSecond] at hEndings
          cases hEndings
  | dropped holds =>
      cases hSecond : (q.run other (patience.limit timeout) counterpart).ending with
      | finished result =>
          rw [hFirst, hSecond] at hEndings
          cases hEndings
      | dropped holds' =>
          obtain ⟨_, _, -, hFirst⟩ := attempt_of_dropped hFirst
          obtain ⟨_, _, -, hSecond⟩ := attempt_of_dropped hSecond
          rw [hFirst, hSecond]

/-- What becomes of a request within the boundary. -/
theorem fst_receiveWithin (server : Server) (timeout : Duration) (patience : Patience)
    (freshId : Bytes) (request : Http.Request) (scene : Scene σ) :
    (server.receiveWithin timeout world patience freshId request scene).1 =
      if isTooLarge request then
        .response (complete (find? server.routes request) request
          (addRequestId (requestId request freshId) tooLarge))
      else
        match (attempt world (some timeout) patience
          (catchPanic (dispatch server.routes request)) scene).1 with
        | some response => .response (complete (find? server.routes request) request
            (addRequestId (requestId request freshId) response))
        | none => ofDropped (find? server.routes request) request patience := by
  unfold receiveWithin
  dsimp only
  split
  · rfl
  · split
    · next h => simp [h]
    · next h => simp [h]

end Server

variable {services others : List Service} {scene : Scene σ} {counterpart : Scene τ}

theorem mirrors_dispatch (h : List.Forall₂ Service.Mirrors services others) (gate : Gate)
    (timeout : Duration) (request : Http.Request) :
    (dispatch (serving (Pipeline.apply gate) services timeout).routes request).Mirrors SameTold
      (dispatch (serving (Pipeline.apply gate) others timeout).routes request) := by
  unfold dispatch
  rw [find?_serving, find?_serving]
  rcases find?_of_mirrors h request with ⟨hNone, hNone'⟩ | ⟨service, other, hMirrors, hSome, hSome'⟩
  · rw [hNone, hNone']
    exact .done rfl
  · rw [hSome, hSome']
    exact hMirrors.serve gate request

/-- Services that mirror each other have their responses completed in the same way. -/
theorem complete_of_mirrors (h : List.Forall₂ Service.Mirrors services others) (gate : Gate)
    (timeout : Duration) (request : Http.Request) (response : Http.Response) :
    complete (find? (serving (Pipeline.apply gate) services timeout).routes request) request
        response =
      complete (find? (serving (Pipeline.apply gate) others timeout).routes request) request
        response := by
  rw [find?_serving, find?_serving]
  rcases find?_of_mirrors h request with ⟨hNone, hNone'⟩ | ⟨service, other, hMirrors, hSome, hSome'⟩
  · rw [hNone, hNone']
  · rw [hSome, hSome']
    refine complete_congr ?_ ?_ request response
    · rfl
    · exact hMirrors.isReadOnly

/-- Servers whose services mirror each other answer alike where the surroundings do. -/
theorem receive_of_mirrors (h : List.Forall₂ Service.Mirrors services others)
    (hWorlds : AnswerAlike same world other) (hScenes : scene.Mirrors same counterpart)
    (gate : Gate) (timeout : Duration) (patience : Patience) (freshId : Bytes)
    (request : Http.Request) :
    ((serving (Pipeline.apply gate) services timeout).receive world patience freshId request
        scene).1 =
      ((serving (Pipeline.apply gate) others timeout).receive other patience freshId request
        counterpart).1 := by
  have hComplete := complete_of_mirrors h gate timeout request
  have hWithin (patience : Patience) :
      ((serving (Pipeline.apply gate) services timeout).receiveWithin timeout world patience freshId
          request scene).1 =
        ((serving (Pipeline.apply gate) others timeout).receiveWithin timeout other patience freshId
          request counterpart).1 := by
    have hAttempt := Server.attempt_of_mirrors (mirrors_catchPanic (mirrors_dispatch h gate timeout
      request)) hWorlds hScenes (some timeout) patience
    rw [Server.fst_receiveWithin, Server.fst_receiveWithin, hAttempt]
    simp only [hComplete, Server.ofDropped]
  exact hWithin _

/-! ## The application -/

theorem passesOn_health (request : Http.Request) (context : Context) :
    (readOnly health request context).PassesOn := by
  unfold readOnly
  split
  · exact .done _
  · exact .done _

theorem passesOn_me (request : Http.Request) (context : Context) :
    (readOnly me request context).PassesOn := by
  unfold readOnly
  split
  · obtain ⟨tenant, claims, transaction⟩ := context
    cases tenant with
    | none => exact .done _
    | some tenant => cases claims <;> exact .done _
  · exact .done _

/-- An error of the database is handed on as it is. -/
theorem passesOn_currentTenant (gate : Gate) (request : Http.Request) (context : Context) :
    (readOnly (currentTenant gate) request context).PassesOn := by
  unfold readOnly
  split
  · obtain ⟨tenant, claims, transaction⟩ := context
    cases tenant with
    | none => exact .done _
    | some tenant =>
        cases transaction with
        | none => exact .log _ (.done _)
        | some bound =>
            exact .readSetting _ (fun _ => rfl) (fun _ => rfl) fun _ => .done _
  · exact .done _

/-- The handlers of the application pass failures on. -/
theorem mirrors_services (gate : Gate) :
    List.Forall₂ Service.Mirrors (Site.services gate) (Site.services gate) := by
  have hMirrors {service : Service}
      (h : ∀ request context, (service.handler request context).PassesOn) :
      service.Mirrors service :=
    ⟨rfl, rfl, rfl, fun request context => (h request context).mirrors⟩
  exact .cons (hMirrors passesOn_health) (.cons (hMirrors (passesOn_currentTenant gate))
    (.cons (hMirrors passesOn_me) .nil))

/-- Surroundings that fail in the same way, whatever the texts of their errors are, lead to the same
response, and so do handlers that come to a panic, whatever its message is. -/
theorem details_untold (hWorlds : AnswerAlike same world other)
    (hScenes : scene.Mirrors same counterpart) (gate : Gate) (timeout : Duration)
    (patience : Patience) (freshId : Bytes) (request : Http.Request) :
    (∀ services others, List.Forall₂ Service.Mirrors services others →
      ((serving (Pipeline.apply gate) services timeout).receive world patience freshId request
          scene).1 =
        ((serving (Pipeline.apply gate) others timeout).receive other patience freshId request
          counterpart).1) ∧
    let server : Server := ⟨application gate, some timeout⟩
    (server.receive world patience freshId request scene).1 =
      (server.receive other patience freshId request counterpart).1 := by
  constructor
  · intro services others h
    exact receive_of_mirrors h hWorlds hScenes gate timeout patience freshId request
  · exact receive_of_mirrors (mirrors_services gate) hWorlds hScenes gate timeout patience freshId
      request

/-- Surroundings that fail to count, to run statements and to roll back, and say why. -/
def failingWorld (detail : String) : World Unit
  | .count _ _ _, _ => (.now (some (.error (.unavailable (.connection detail)))), ())
  | .execute _, _ => (.now (.error (.statement detail)), ())
  | .readSetting _, _ => (.now (.error detail), ())
  | .rollback, _ => (.now (.error (.rollback detail)), ())
  | call, state => Pipeline.sampleWorld .zero call state

/-- Comes to a panic with what its statement has failed with. -/
def unwrappingHandler : Handler := fun _ _ => .execute "INSERT" fun
  | .ok _ => .done (.ok (.bare 204))
  | .error error => .done (.error (.text error.message))

def unwrappingServices : List Service := [⟨"/", false, some .everyone, unwrappingHandler⟩]

/-- Why the database has failed is reported, but the client is not told. -/
theorem password_untold :
    let served (detail : String) := (serving (Pipeline.apply Pipeline.sampleGate) unwrappingServices
      (.ofSeconds 30)).receive (failingWorld detail) .stays [] Pipeline.sampleRequest (.fresh ())
    let shown (detail : String) := (Server.mk (application Pipeline.sampleGate)
      (some (.ofSeconds 30))).receive (failingWorld detail) .stays [] Pipeline.tenantRequest
        (.fresh ())
    (served "no host").1 = (served "password: hunter2").1 ∧
      (shown "no host").1 = (shown "password: hunter2").1 ∧
      Refusal.queryEvent "password: hunter2" ∈ eventsOf (shown "password: hunter2").2.2 := by
  intro served shown
  have hWorlds : AnswerAlike (fun _ _ => True) (failingWorld "no host")
      (failingWorld "password: hunter2") := by
    intro call _ _ _
    cases call <;> exact ⟨rfl, trivial⟩
  have hScenes : (Scene.fresh ()).Mirrors (fun _ _ => True) (Scene.fresh ()) :=
    ⟨trivial, rfl, rfl⟩
  have hServices : List.Forall₂ Service.Mirrors unwrappingServices unwrappingServices := by
    refine .cons ⟨rfl, rfl, rfl, fun _ _ => .execute "INSERT" fun answer told hUntold => ?_⟩ .nil
    rcases cases_of_mapError_eq hUntold with ⟨rows, rfl, rfl⟩ | ⟨error, error', rfl, rfl, -⟩
    · exact .done rfl
    · exact .done rfl
  obtain ⟨hServed, -⟩ := details_untold hWorlds hScenes Pipeline.sampleGate (.ofSeconds 30) .stays
    [] Pipeline.sampleRequest
  obtain ⟨-, hShown⟩ := details_untold hWorlds hScenes Pipeline.sampleGate (.ofSeconds 30) .stays
    [] Pipeline.tenantRequest
  have hReported : Refusal.queryEvent "password: hunter2" ∈
      eventsOf (shown "password: hunter2").2.2 := by
    decide +kernel
  exact ⟨hServed _ _ hServices, hShown, hReported⟩

end Site

end Gatehouse
