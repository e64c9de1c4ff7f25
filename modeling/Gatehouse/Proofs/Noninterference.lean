import Gatehouse.Proofs.ExactReckoning
import Gatehouse.Proofs.Execution
import Gatehouse.Proofs.Shelving
import Gatehouse.Surroundings.Commons
import Gatehouse.Surroundings.Servers

/-! Those who share a server do not notice one another. An errand works on its own key only, no two
clients have one key, and no client has the key of a domain. So nothing changes for an errand when
others are left out. What they share is the key-value server that commands are sent to. -/
namespace Gatehouse.Surroundings

variable {F δ : Type} {users : Users}

/-! ## Keys -/

/-- The identifier stands at the end of the key. -/
theorem clientKey_injective (config : RateLimit.Config) {first second : String}
    (h : config.key first = config.key second) : first = second := by
  have hChars : (config.key first).toList = (config.key second).toList := congrArg String.toList h
  simp only [RateLimit.Config.key, String.toList_append, List.append_cancel_left_eq] at hChars
  exact String.toList_inj.mp hChars

/-- The keys of clients begin with another letter than those of domains. -/
theorem clientKey_ne_domainKey (config : RateLimit.Config) (cache : Tenant.Cache)
    (hSpace : cache.space = Tenant.Cache.defaultSpace) (client domain : String) :
    config.key client ≠ cache.key domain := by
  intro hEq
  have hChars : (config.key client).toList.head? = (cache.key domain).toList.head? := by rw [hEq]
  simp [RateLimit.Config.key, Tenant.Cache.key, hSpace, Tenant.Cache.defaultSpace, toString]
    at hChars

/-! ## What an errand asks for -/

/-- An errand asks for its own key only, and the directory only if it is a consultation. -/
def Errand.Asks (users : Users) (errand : Errand) : Call → Prop
  | .readCache key | .writeCache key _ _ | .deleteCache key | .count key _ _ =>
    key = errand.key users
  | .lookup _ => errand.isConsultation = true
  | _ => False

/-- Whatever it is answered, the program asks only for what the errand asks for. -/
def Errand.Governs {α : Type} (users : Users) (errand : Errand) (p : Program α) : Prop :=
  p.Obeys (fun call _ => errand.Asks users call) fun _ => True

theorem Errand.Governs.pastEvents {α : Type} {errand : Errand} {p : Program α}
    (h : errand.Governs users p) : errand.Governs users p.pastEvents := by
  induction p with
  | done value => exact h
  | log event rest ih => exact ih h
  | visit change next => exact h
  | ask call holds next => exact h

theorem governs_read (operation : Operation) :
    (Errand.consult operation).Governs users (users.cache.read operation.domain) := by
  rw [read_eq]
  refine ⟨rfl, fun answer => ?_⟩
  cases answer <;> trivial

theorem governs_write (operation : Operation) (id : String) :
    (Errand.consult operation).Governs users (users.cache.write operation.domain id) := by
  rw [write_eq]
  refine ⟨rfl, fun answer => ?_⟩
  cases answer <;> trivial

/-- The directory behind the cache is consulted for the one domain. -/
theorem governs_inner (hInner : IsDirect users.inner) (operation : Operation) (domain : String) :
    (Errand.consult operation).Governs users (users.inner.find domain) := by
  obtain ⟨events, hFind⟩ := find_eq_of_isDirect hInner domain
  rw [hFind]
  refine ⟨rfl, fun answer => ?_⟩
  dsimp only
  induction events answer with
  | nil => trivial
  | cons event rest ih => exact ih

/-- Both kinds of errands keep to what they are for. -/
theorem governs_program (hInner : IsDirect users.inner) (errand : Errand) :
    errand.Governs users (errand.program users) := by
  cases errand with
  | arrive client =>
      refine ⟨rfl, fun answer => ?_⟩
      rcases answer with _ | error | decision <;> trivial
  | consult operation =>
      cases operation with
      | find domain =>
          refine Program.Obeys.bind (Program.Obeys.bind ?_ fun _ => trivial) fun _ => trivial
          rw [find_eq]
          refine Program.Obeys.bind (governs_read (.find domain)) fun found => ?_
          cases found with
          | some id => trivial
          | none =>
              refine Program.Obeys.bind (governs_inner hInner (.find domain) domain) fun answer => ?_
              cases answer with
              | error error => trivial
              | ok id =>
                  exact Program.Obeys.bind (governs_write (.find domain) id) fun _ => trivial
      | invalidate domain =>
          refine Program.Obeys.bind (Program.Obeys.bind ?_ fun _ => trivial) fun _ => trivial
          rw [invalidate_eq]
          refine ⟨rfl, fun answer => ?_⟩
          cases answer <;> trivial

/-! ## What a call does -/

namespace Commons

/-- What is kept under a key, even if its time is over. -/
def held? (commons : Commons F δ) (key : String) : Option (Store.Entry (Store.Stored F)) :=
  commons.data.entries.lookup key

/-- Two servers are the same to an errand. -/
structure Alike (users : Users) (errand : Errand) (first second : Commons F δ) : Prop where
  held : first.held? (errand.key users) = second.held? (errand.key users)
  directory : errand.isConsultation = true → first.directory = second.directory

theorem Alike.refl (users : Users) (errand : Errand) (commons : Commons F δ) :
    Alike users errand commons commons :=
  ⟨rfl, fun _ => rfl⟩

theorem Alike.trans {errand : Errand} {first second third : Commons F δ}
    (h : Alike users errand first second) (h' : Alike users errand second third) :
    Alike users errand first third :=
  ⟨h.held.trans h'.held, fun hErrand => (h.directory hErrand).trans (h'.directory hErrand)⟩

/-- What an errand does is the same to another one that has another key, if they are not both
consultations. -/
def Apart (users : Users) (first second : Errand) : Prop :=
  first.key users ≠ second.key users ∧ (first.isConsultation = true → second.isConsultation = false)

/-- What is found under a key depends on its entry. -/
theorem get?_congr {first second : Store.Data F} {key : String}
    (h : first.entries.lookup key = second.entries.lookup key) (time : Int) :
    first.get? time key = second.get? time key := by
  unfold Store.KeyValue.get?
  rw [h]

variable [RateLimit.Arithmetic F]

/-- A call of an errand is about its key and about the directory. -/
theorem held?_reply_of_ne {errand : Errand} {call : Call} (hCall : errand.Asks users call)
    (conduct : Conduct F δ) (time : Int) (commons : Commons F δ) {key : String}
    (hKey : key ≠ errand.key users) :
    (commons.reply conduct time call).2.held? key = commons.held? key := by
  unfold held?
  cases call with
  | readCache other => rfl
  | writeCache other value ttl =>
      obtain rfl : other = errand.key users := hCall
      exact commons.data.lookup_insert_of_ne hKey _
  | deleteCache other =>
      obtain rfl : other = errand.key users := hCall
      exact Store.KeyValue.lookup_filter_ne hKey commons.data.entries
  | count other limit patience =>
      obtain rfl : other = errand.key users := hCall
      dsimp only [reply, Reckoning.count, Store.Data.count]
      split
      · rfl
      · exact commons.data.lookup_insert_of_ne hKey _
  | _ => rfl

/-- Who is not on a consultation leaves the directory alone. -/
theorem directory_reply {errand : Errand} {call : Call} (hCall : errand.Asks users call)
    (hErrand : errand.isConsultation = false) (conduct : Conduct F δ) (time : Int)
    (commons : Commons F δ) :
    (commons.reply conduct time call).2.directory = commons.directory := by
  cases call with
  | lookup domain => exact absurd (hErrand.symm.trans hCall) Bool.false_ne_true
  | _ => rfl

/-- An errand is answered by what is kept under its key and by the directory. -/
theorem reply_alike {errand : Errand} {call : Call} (hCall : errand.Asks users call)
    (conduct : Conduct F δ) (time : Int) {first second : Commons F δ}
    (h : Alike users errand first second) :
    (first.reply conduct time call).1 = (second.reply conduct time call).1 ∧
      Alike users errand (first.reply conduct time call).2 (second.reply conduct time call).2 := by
  have hSeen := get?_congr h.held time
  cases call with
  | lookup domain =>
      have hDirectory := h.directory hCall
      dsimp only [reply]
      rw [hDirectory]
      exact ⟨rfl, h.held, fun _ => rfl⟩
  | readCache key =>
      obtain rfl : key = errand.key users := hCall
      dsimp only [reply, Store.Data.read]
      exact ⟨by rw [hSeen], h⟩
  | writeCache key value ttl =>
      obtain rfl : key = errand.key users := hCall
      refine ⟨rfl, ?_, h.directory⟩
      exact List.lookup_cons_self.trans List.lookup_cons_self.symm
  | deleteCache key =>
      obtain rfl : key = errand.key users := hCall
      have hExisted : (first.data.delete time (errand.key users)).1 =
          (second.data.delete time (errand.key users)).1 := congrArg Option.isSome hSeen
      dsimp only [reply]
      refine ⟨by rw [hExisted], ?_, h.directory⟩
      exact (first.data.lookup_erase_self _).trans (second.data.lookup_erase_self _).symm
  | count key limit patience =>
      obtain rfl : key = errand.key users := hCall
      dsimp only [reply, Reckoning.count, Store.Data.count]
      rw [hSeen]
      split
      · exact ⟨rfl, h.held, h.directory⟩
      · refine ⟨rfl, ?_, h.directory⟩
        exact List.lookup_cons_self.trans List.lookup_cons_self.symm
  | _ => exact ⟨rfl, h⟩

/-- A call of one errand is the same to another one that stands apart from it. -/
theorem answer_of_apart {errand other : Errand} (hApart : Apart users errand other) {call : Call}
    (hCall : other.Asks users call) (conduct : Conduct F δ) (turn : Turn) (commons : Commons F δ) :
    Alike users errand (commons.answer conduct turn call).2 commons := by
  have hReply : Alike users errand (commons.reply conduct turn.time call).2 commons :=
    ⟨held?_reply_of_ne hCall conduct turn.time commons hApart.1,
      fun hErrand => directory_reply hCall (hApart.2 hErrand) conduct turn.time commons⟩
  unfold answer
  dsimp only
  cases turn.fate with
  | answered => exact hReply
  | failed answer lands =>
      cases lands with
      | true => exact hReply
      | false => exact .refl users errand commons

/-- What is the same to an errand and to the one that has a call answered stays so. -/
theorem answer_alike {errand other : Errand} {call : Call} (hCall : other.Asks users call)
    (conduct : Conduct F δ) (turn : Turn) {first second : Commons F δ}
    (h : Alike users errand first second) (hOther : Alike users other first second) :
    (first.answer conduct turn call).1 = (second.answer conduct turn call).1 ∧
      Alike users errand (first.answer conduct turn call).2 (second.answer conduct turn call).2 := by
  obtain ⟨hAnswer, hAfter⟩ := reply_alike hCall conduct turn.time hOther
  have hReply : Alike users errand (first.reply conduct turn.time call).2
      (second.reply conduct turn.time call).2 := by
    refine ⟨?_, fun hErrand => ?_⟩
    · by_cases hKey : errand.key users = other.key users
      · rw [hKey]
        exact hAfter.held
      · rw [held?_reply_of_ne hCall conduct turn.time first hKey,
          held?_reply_of_ne hCall conduct turn.time second hKey, h.held]
    · cases hIs : other.isConsultation with
      | true => exact hAfter.directory hIs
      | false =>
          rw [directory_reply hCall hIs, directory_reply hCall hIs, h.directory hErrand]
  unfold answer
  dsimp only
  cases turn.fate with
  | answered => exact ⟨hAnswer, hReply⟩
  | failed answer lands =>
      cases lands with
      | true => exact ⟨rfl, hReply⟩
      | false => exact ⟨rfl, h⟩

end Commons

/-! ## Turns -/

namespace Gathering

variable {errands : Nat → Errand} {mine : Errand → Bool}

/-- All parties have only calls of their errands left. -/
def Governed (users : Users) (errands : Nat → Errand) (gathering : Gathering F δ) : Prop :=
  ∀ party, (errands party).Governs users (gathering.rest party)

/-- At the start everyone is about to do their errand. -/
theorem governed_start (hInner : IsDirect users.inner) (errands : Nat → Errand)
    (commons : Commons F δ) : Governed users errands (start users errands commons) :=
  fun party => (governs_program hInner (errands party)).pastEvents

/-- Two gatherings are the same to those whose errands are chosen. -/
structure Alike (users : Users) (errands : Nat → Errand) (mine : Errand → Bool)
    (whole part : Gathering F δ) : Prop where
  rest : ∀ party, mine (errands party) = true → whole.rest party = part.rest party
  commons : ∀ errand, mine errand = true → whole.commons.Alike users errand part.commons

theorem alike_refl (users : Users) (errands : Nat → Errand) (mine : Errand → Bool)
    (gathering : Gathering F δ) : Alike users errands mine gathering gathering :=
  ⟨fun _ _ => rfl, fun errand _ => .refl users errand gathering.commons⟩

variable [RateLimit.Arithmetic F]

theorem step_of_ask (conduct : Conduct F δ) {gathering : Gathering F δ} {turn : Turn} {call : Call}
    {holds : List Hold} {next : call.Answer → Program Report}
    (h : gathering.rest turn.party = .ask call holds next) :
    gathering.step conduct turn =
      match (gathering.commons.answer conduct turn call).1 with
      | none => (none, ⟨(gathering.commons.answer conduct turn call).2, gathering.rest⟩)
      | some answer => ((next answer).pastEvents.value?,
          ⟨(gathering.commons.answer conduct turn call).2, fun party =>
            if party = turn.party then (next answer).pastEvents else gathering.rest party⟩) := by
  cases hAnswer : gathering.commons.answer conduct turn call with
  | mk answer commons =>
      cases answer with
      | none => simp only [step, h, hAnswer]
      | some answer => simp only [step, h, hAnswer]

/-- Whose program is over takes no more turns. -/
theorem step_of_not_ask (conduct : Conduct F δ) {gathering : Gathering F δ} {turn : Turn}
    (h : ∀ call holds next, gathering.rest turn.party ≠ .ask call holds next) :
    gathering.step conduct turn = (none, gathering) := by
  unfold step
  split
  · next hRest => exact (h _ _ _ hRest).elim
  · rfl

/-- A turn leaves everyone at their errand. -/
theorem governed_step {gathering : Gathering F δ} (h : Governed users errands gathering)
    (conduct : Conduct F δ) (turn : Turn) :
    Governed users errands (gathering.step conduct turn).2 := by
  intro party
  cases hRest : gathering.rest turn.party with
  | ask call holds next =>
      have hAsks : (errands turn.party).Governs users (.ask call holds next) := hRest ▸ h turn.party
      rw [step_of_ask conduct hRest]
      cases (gathering.commons.answer conduct turn call).1 with
      | none => exact h party
      | some answer =>
          dsimp only
          split
          · next hParty => exact hParty ▸ Errand.Governs.pastEvents (hAsks.2 answer)
          · exact h party
  | _ =>
      rw [step_of_not_ask conduct (by simp [hRest])]
      exact h party

/-- A party whose errand is chosen goes on in the same way. -/
theorem step_alike {whole part : Gathering F δ} (hGoverned : Governed users errands whole)
    (h : Alike users errands mine whole part) (conduct : Conduct F δ) {turn : Turn}
    (hMine : mine (errands turn.party) = true) :
    (whole.step conduct turn).1 = (part.step conduct turn).1 ∧
      Alike users errands mine (whole.step conduct turn).2 (part.step conduct turn).2 := by
  have hSame := h.rest turn.party hMine
  cases hRest : whole.rest turn.party with
  | ask call holds next =>
      have hAsks : (errands turn.party).Governs users (.ask call holds next) :=
        hRest ▸ hGoverned turn.party
      have hAnswered (errand : Errand) (hErrand : mine errand = true) :=
        Commons.answer_alike hAsks.1 conduct turn (h.commons errand hErrand)
          (h.commons _ hMine)
      rw [step_of_ask conduct hRest, step_of_ask conduct (hSame ▸ hRest),
        (hAnswered _ hMine).1]
      cases (part.commons.answer conduct turn call).1 with
      | none => exact ⟨rfl, h.rest, fun errand hErrand => (hAnswered errand hErrand).2⟩
      | some answer =>
          refine ⟨rfl, fun party hParty => ?_, fun errand hErrand => (hAnswered errand hErrand).2⟩
          dsimp only
          rw [h.rest party hParty]
  | _ =>
      rw [step_of_not_ask conduct (by simp [hRest]),
        step_of_not_ask conduct (by simp [← hSame, hRest])]
      exact ⟨rfl, h⟩

/-- A party whose errand is not chosen changes nothing for the others. -/
theorem step_of_apart {whole part : Gathering F δ} (hGoverned : Governed users errands whole)
    (h : Alike users errands mine whole part) (conduct : Conduct F δ) {turn : Turn}
    (hOther : mine (errands turn.party) = false)
    (hApart : ∀ errand, mine errand = true → Commons.Apart users errand (errands turn.party)) :
    Alike users errands mine (whole.step conduct turn).2 part := by
  cases hRest : whole.rest turn.party with
  | ask call holds next =>
      have hAsks : (errands turn.party).Governs users (.ask call holds next) :=
        hRest ▸ hGoverned turn.party
      have hCommons (errand : Errand) (hErrand : mine errand = true) :
          ((whole.commons.answer conduct turn call).2).Alike users errand part.commons :=
        (Commons.answer_of_apart (hApart errand hErrand) hAsks.1 conduct turn
          whole.commons).trans (h.commons errand hErrand)
      rw [step_of_ask conduct hRest]
      cases (whole.commons.answer conduct turn call).1 with
      | none => exact ⟨h.rest, hCommons⟩
      | some answer =>
          refine ⟨fun party hParty => ?_, hCommons⟩
          have hNe : party ≠ turn.party := by
            rintro rfl
            exact Bool.false_ne_true (hOther.symm.trans hParty)
          dsimp only
          rw [if_neg hNe, h.rest party hParty]
  | _ =>
      rw [step_of_not_ask conduct (by simp [hRest])]
      exact h

/-- What the chosen parties report does not depend on the others. -/
theorem reports_of_apart (conduct : Conduct F δ)
    (hApart : ∀ errand other, mine errand = true → mine other = false →
      Commons.Apart users errand other) (turns : List Turn) {whole part : Gathering F δ}
    (hGoverned : Governed users errands whole) (h : Alike users errands mine whole part) :
    (whole.reports conduct turns).filter (fun report => mine (errands report.1)) =
      part.reports conduct (turns.filter fun turn => mine (errands turn.party)) := by
  induction turns generalizing whole part with
  | nil => rfl
  | cons turn rest ih =>
      have hNext := governed_step hGoverned conduct turn
      rw [reports, List.filter_append]
      cases hMine : mine (errands turn.party) with
      | true =>
          obtain ⟨hReport, hAlike⟩ := step_alike hGoverned h conduct hMine
          rw [List.filter_cons, if_pos hMine, reports, hReport]
          dsimp only
          rw [ih hNext hAlike]
          congr 1
          cases (part.step conduct turn).1 with
          | none => rfl
          | some report => simp [hMine]
      | false =>
          have hAlike := step_of_apart hGoverned h conduct hMine fun errand hErrand =>
            hApart errand _ hErrand hMine
          rw [List.filter_cons, if_neg (by simp [hMine]), ← ih hNext hAlike]
          cases (whole.step conduct turn).1 with
          | none => rfl
          | some report => simp [hMine]

end Gathering

/-! ## Clients and caches -/

/-- A client stands apart from every other client and from every domain. -/
theorem apart_of_isFor (hSpace : users.cache.space = Tenant.Cache.defaultSpace) {client : String}
    {errand other : Errand} (hErrand : errand.isFor client = true)
    (hOther : other.isFor client = false) : Commons.Apart users errand other := by
  obtain rfl : errand = .arrive client := of_decide_eq_true hErrand
  refine ⟨?_, fun hConsults => absurd hConsults Bool.false_ne_true⟩
  cases other with
  | arrive name =>
      intro hKey
      have hSame : client = name := clientKey_injective users.limiter.config hKey
      exact of_decide_eq_false hOther (by rw [hSame])
  | consult operation => exact clientKey_ne_domainKey _ _ hSpace client operation.domain

/-- What is done in the cache stands apart from every client. -/
theorem apart_of_isConsultation (hSpace : users.cache.space = Tenant.Cache.defaultSpace)
    {errand other : Errand} (hErrand : errand.isConsultation = true)
    (hOther : other.isConsultation = false) : Commons.Apart users errand other := by
  refine ⟨?_, fun _ => hOther⟩
  cases other with
  | consult operation => exact absurd hOther.symm Bool.false_ne_true
  | arrive client =>
      cases errand with
      | arrive name => exact absurd hErrand Bool.false_ne_true
      | consult operation =>
          exact (clientKey_ne_domainKey _ _ hSpace client operation.domain).symm

/-- However the calls of a limiter and of a cache alternate on the server that they share, at
whatever times they are carried out and whether or not they fail: every client is told what it is
told when there are no other clients and no cache, and the cache finds and forgets what it does when
there are no clients. -/
theorem sharers_unnoticed (users : Users) (hInner : IsDirect users.inner)
    (hSpace : users.cache.space = Tenant.Cache.defaultSpace) [RateLimit.Arithmetic F]
    (conduct : Conduct F δ) (errands : Nat → Errand) (commons : Commons F δ)
    (turns : List Turn) :
    let gathering := Gathering.start users errands commons
    let reports := gathering.reports conduct turns
    (∀ client, (reports.filter fun report => (errands report.1).isFor client) =
      gathering.reports conduct (turns.filter fun turn => (errands turn.party).isFor client)) ∧
    (reports.filter fun report => (errands report.1).isConsultation) =
      gathering.reports conduct
        (turns.filter fun turn => (errands turn.party).isConsultation) := by
  intro gathering reports
  have hGoverned := Gathering.governed_start hInner errands commons
  refine ⟨fun client => ?_, ?_⟩
  · exact Gathering.reports_of_apart conduct
      (fun errand other hErrand hOther => apart_of_isFor hSpace hErrand hOther) turns hGoverned
      (Gathering.alike_refl users errands _ gathering)
  · exact Gathering.reports_of_apart conduct
      (fun errand other hErrand hOther => apart_of_isConsultation hSpace hErrand hOther) turns
      hGoverned (Gathering.alike_refl users errands _ gathering)

/-- One request a minute, and a cache for five minutes. -/
def sharers : Users where
  limiter := ⟨⟨"", ⟨1, 1, .ofSeconds 60⟩⟩, .lenient, .ofSeconds 1, "valkey"⟩
  cache := fiveMinutes
  inner := .directory

/-- A directory that knows one domain. -/
def oneDomain : Conduct ℚ Unit where
  reckoning := .exact
  lookup domain _ _ := (if domain = "acme" then .ok "t1" else .error (.notFound domain), ())

/-- Two requests of one client, one of another, and a find. -/
def fewErrands : Nat → Errand
  | 0 | 1 => .arrive "10.0.0.1"
  | 2 => .arrive "10.0.0.2"
  | _ => .consult (.find "acme")

/-- Every second someone has a call answered. -/
def fewTurns : List Turn :=
  [⟨0, 1500000000000000, .answered⟩, ⟨3, 1500000001000000, .answered⟩,
    ⟨2, 1500000002000000, .answered⟩, ⟨3, 1500000003000000, .answered⟩,
    ⟨1, 1500000004000000, .answered⟩, ⟨3, 1500000005000000, .answered⟩]

/-- One client is refused its second request, whether or not there are others in between, and the
domain is found. -/
theorem second_request_refused :
    let gathering := Gathering.start sharers fewErrands ⟨.empty, ()⟩
    let reports := gathering.reports oneDomain fewTurns
    let client := gathering.reports oneDomain
      (fewTurns.filter fun turn => (fewErrands turn.party).isFor "10.0.0.1")
    let cache := gathering.reports oneDomain
      (fewTurns.filter fun turn => (fewErrands turn.party).isConsultation)
    (reports.filter fun report => (fewErrands report.1).isFor "10.0.0.1") = client ∧
    client = [(0, .admission (.decided ⟨true, 0, .ofSeconds 60, .zero⟩)),
      (1, .admission (.decided ⟨false, 0, .ofSeconds 56, .ofSeconds 56⟩))] ∧
    (reports.filter fun report => (fewErrands report.1).isConsultation) = cache ∧
    cache = [(3, .result (.found (.ok "t1")))] := by
  intro gathering reports client cache
  obtain ⟨hClients, hCache⟩ := sharers_unnoticed sharers (.inl rfl) rfl oneDomain
    fewErrands ⟨.empty, ()⟩ fewTurns
  refine ⟨hClients "10.0.0.1", ?_, hCache, ?_⟩
  · subst client gathering
    cbv
  · subst cache gathering
    cbv

/-! ## The server in doubles -/

/-- A call is put to the key-value server. -/
def IsKept : Call → Prop
  | .readCache _ | .writeCache _ _ _ | .deleteCache _ | .count _ _ _ => True
  | _ => False

/-- A reply that states a verdict does not ask for the script, so a count is sent once only. -/
theorem Servers.sendCount_eq_send {servers : Servers} (hReplies : servers.repliesInstead = [])
    (key : String) (quota : RateLimit.Gcra.Quota Float) :
    servers.sendCount (.count key quota) =
      ((servers.send (.count key quota)).1,
        { (servers.send (.count key quota)).2 with knowsScript := true }) := by
  have hKnown : (Store.replyOf (servers.data.count servers.clock key quota).1).lacksScript =
      false := rfl
  simp [Servers.sendCount, Servers.send, hReplies, Store.Data.apply, hKnown]

/-- Commons that count in doubles are a key-value server that replies for itself: each call that
is put to it has the same answer and leaves the same data. So those who share that server, with
commands and replies between, do not notice one another either. -/
theorem Servers.reply_eq_answer {servers : Servers} (hReplies : servers.repliesInstead = [])
    (lookup : String → Int → δ → Except Tenant.LookupError String × δ) (directory : δ)
    {call : Call} (hCall : IsKept call) :
    Commons.reply ⟨.doubles, lookup⟩ servers.clock ⟨servers.data, directory⟩ call =
      (some (servers.answer call).1, ⟨(servers.answer call).2.data, directory⟩) := by
  cases call with
  | readCache key =>
    simp only [Commons.reply, Servers.answer, Servers.send, hReplies, List.lookup_nil,
      Store.Data.apply]
    cases servers.data.read servers.clock key with
    | none => rfl
    | some text => simp only [Store.Reply.readValue_bulk_ofText]
  | writeCache key value ttl =>
    simp only [Commons.reply, Servers.answer, Servers.send, hReplies, List.lookup_nil,
      Store.Data.apply]
    rfl
  | deleteCache key =>
    simp only [Commons.reply, Servers.answer, Servers.send, hReplies, List.lookup_nil,
      Store.Data.apply]
    cases (servers.data.delete servers.clock key).1 <;> rfl
  | count key limit patience =>
    simp only [Commons.reply, Servers.answer, Servers.sendCount_eq_send hReplies, Servers.send,
      hReplies, List.lookup_nil, Reckoning.count_doubles]
  | _ => exact hCall.elim

end Gatehouse.Surroundings
