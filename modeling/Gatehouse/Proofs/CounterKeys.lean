import Gatehouse.Proofs.Clients
import Gatehouse.Proofs.Expiry

/-! On whose counter a request counts. Its key joins the name of the limiter and that of the client by
a colon, which both of them may contain. So two limiters have a counter in common just if the name of one
goes on, past the name of the other and a colon, with what a client may be called. -/
namespace Gatehouse.RateLimit

/-- The name of a client, as it stands in keys. -/
def clientName (headers : Http.Headers) (peer : Option Address) : String :=
  String.ofList (client headers peer)

/-! ## Keys -/

/-- Where two texts with a colon in between are the same, the colon is in the same place, or one of both
occurs in what stands before the other. -/
theorem append_colon_eq_iff {first second left right : List Char} :
    first ++ ':' :: left = second ++ ':' :: right ↔
      first = second ∧ left = right ∨
      (∃ rest, second = first ++ ':' :: rest ∧ left = rest ++ ':' :: right) ∨
      ∃ rest, first = second ++ ':' :: rest ∧ right = rest ++ ':' :: left := by
  constructor
  · intro hEq
    obtain ⟨between, hSecond, hLeft⟩ | ⟨between, hFirst, hRight⟩ := List.append_eq_append_iff.mp hEq
    · cases between with
      | nil => exact .inl ⟨by simpa using hSecond.symm, by simpa using hLeft⟩
      | cons c rest =>
          obtain ⟨rfl, rfl⟩ := List.cons.inj hLeft
          exact .inr (.inl ⟨rest, hSecond, rfl⟩)
    · cases between with
      | nil => exact .inl ⟨by simpa using hFirst, by simpa using hRight.symm⟩
      | cons c rest =>
          obtain ⟨rfl, rfl⟩ := List.cons.inj hRight
          exact .inr (.inr ⟨rest, hFirst, rfl⟩)
  · rintro (⟨rfl, rfl⟩ | ⟨rest, rfl, rfl⟩ | ⟨rest, rfl, rfl⟩) <;> simp

/-- A key is the name and the identifier, with a colon between. -/
theorem toList_key (config : Config) (client : String) :
    (config.key client).toList =
      "ratelimit:".toList ++ (config.limiterName.toList ++ ':' :: client.toList) := by
  simp [Config.key, toString]

/-- The name of the other limiter goes on, past that of this one and a colon, with what the name of this
one's client has before that of the other one's. -/
def Overlaps (config other : Config) (client another : String) : Prop :=
  ∃ rest, other.limiterName.toList = config.limiterName.toList ++ ':' :: rest ∧
    client.toList = rest ++ ':' :: another.toList

/-- Two keys are the same just if they are made of the same names, or of names that overlap. -/
theorem key_eq_iff (config other : Config) (client another : String) :
    config.key client = other.key another ↔
      config.limiterName = other.limiterName ∧ client = another ∨
        Overlaps config other client another ∨ Overlaps other config another client := by
  rw [← String.toList_inj, toList_key, toList_key, List.append_cancel_left_eq, append_colon_eq_iff,
    String.toList_inj, String.toList_inj]
  rfl

/-! ## Limiters -/

/-- The longer name goes on, past the other one and a colon, with what a client may be called. -/
def Continues (name longer : String) : Prop :=
  ∃ rest, longer.toList = name.toList ++ ':' :: rest ∧ Text.Begins rest

theorem Continues.ne {name longer : String} (h : Continues name longer) : name ≠ longer := by
  rintro rfl
  obtain ⟨rest, hLonger, -⟩ := h
  have hLength := congrArg List.length hLonger
  simp at hLength

/-- Requests never share a counter, unless they are of the same client under the same name. -/
def KeysApart (config other : Config) : Prop :=
  ∀ headers peer headers' peer',
    config.limiterName ≠ other.limiterName ∨ clientName headers peer ≠ clientName headers' peer' →
      config.key (clientName headers peer) ≠ other.key (clientName headers' peer')

theorem KeysApart.symm {config other : Config} (h : KeysApart config other) :
    KeysApart other config :=
  fun headers peer headers' peer' hDiffer hEq =>
    h headers' peer' headers peer (hDiffer.imp Ne.symm Ne.symm) hEq.symm

/-- The client that is called by what the longer name has more counts with the shorter one. -/
theorem KeysApart.not_continues {config other : Config} (h : KeysApart config other) :
    ¬ Continues config.limiterName other.limiterName := by
  intro hContinues
  have hNames := hContinues.ne
  obtain ⟨rest, hLonger, hBegins⟩ := hContinues
  obtain ⟨headers, hClient⟩ := exists_client_append hBegins
  have hKey : config.key (clientName headers none) = other.key (clientName .empty none) := by
    refine (key_eq_iff ..).mpr (.inr (.inl ⟨rest, hLonger, ?_⟩))
    rw [clientName, clientName, String.toList_ofList, String.toList_ofList, hClient]
    rfl
  exact h headers none .empty none (.inl hNames) hKey

/-- Names that overlap continue one another: what a client is called begins with what it may be called
by. -/
theorem Overlaps.continues {config other : Config} {headers : Http.Headers} {peer : Option Address}
    {another : String} (h : Overlaps config other (clientName headers peer) another) :
    Continues config.limiterName other.limiterName := by
  obtain ⟨rest, hLonger, hClient⟩ := h
  rw [clientName, String.toList_ofList] at hClient
  exact ⟨rest, hLonger, (hClient ▸ begins_client headers peer).mono (List.prefix_append ..)⟩

/-- A name that continues another has a colon in it. -/
theorem Continues.mem_colon {name longer : String} (h : Continues name longer) :
    ':' ∈ longer.toList := by
  obtain ⟨rest, hLonger, -⟩ := h
  simp [hLonger]

/-- Limiters keep apart just if neither name continues the other. -/
theorem keysApart_iff (config other : Config) :
    KeysApart config other ↔
      ¬ Continues config.limiterName other.limiterName ∧
        ¬ Continues other.limiterName config.limiterName := by
  refine ⟨fun h => ⟨h.not_continues, h.symm.not_continues⟩, ?_⟩
  rintro ⟨hForth, hBack⟩ headers peer headers' peer' hDiffer hKey
  obtain ⟨hNames, hClients⟩ | hOverlap | hOverlap := (key_eq_iff ..).mp hKey
  · exact hDiffer.elim (· hNames) (· hClients)
  · exact hForth hOverlap.continues
  · exact hBack hOverlap.continues

theorem keysApart_self (config : Config) : KeysApart config config :=
  (keysApart_iff config config).mpr ⟨fun h => h.ne rfl, fun h => h.ne rfl⟩

/-! ## Counters -/

open Store (Data Demand)
open Store.Data (answers)

/-- A request of a client to a limiter. -/
def IsTo (config : Config) (demand : Demand) : Prop :=
  demand.limit = config.limit ∧ ∃ headers peer, demand.key = config.key (clientName headers peer)

/-- Of requests that come to two limiters in any order, those to this one are told what they would be
told if none came to the other. -/
def CountsAlone (config other : Config) : Prop :=
  ∀ (data : Data ℚ) (own : Demand → Bool) (demands : List Demand),
    (∀ demand ∈ demands, if own demand then IsTo config demand else IsTo other demand) →
      (demands.zip (answers Data.count data demands)).filter (fun told => own told.1) =
        (demands.filter own).zip (answers Data.count data (demands.filter own))

/-- The same is kept in both stores under the keys of a limiter. -/
def AgreeOn (config : Config) (data data' : Data ℚ) : Prop :=
  ∀ headers peer later, data.get? later (config.key (clientName headers peer)) =
    data'.get? later (config.key (clientName headers peer))

section Agreement

variable {config other : Config} {data data' : Data ℚ} {demand : Demand}

/-- Where data agree, a demand on the limiter is decided alike and leaves data that agree. -/
theorem AgreeOn.own (h : AgreeOn config data data') (hOwn : IsTo config demand)
    (quota : Gcra.Quota ℚ) :
    (data.count demand.time demand.key quota).1 = (data'.count demand.time demand.key quota).1 ∧
      AgreeOn config (data.count demand.time demand.key quota).2
        (data'.count demand.time demand.key quota).2 := by
  obtain ⟨-, headers, peer, hKey⟩ := hOwn
  rw [hKey]
  unfold Data.count
  dsimp only
  rw [h headers peer demand.time]
  split
  · exact ⟨rfl, h⟩
  · refine ⟨rfl, fun headers' peer' later => ?_⟩
    by_cases hSame : config.key (clientName headers' peer') = config.key (clientName headers peer)
    · rw [hSame, Store.KeyValue.setFor, Store.KeyValue.setFor, Store.KeyValue.get?_insert_self,
        Store.KeyValue.get?_insert_self]
    · rw [Store.KeyValue.setFor, Store.KeyValue.setFor,
        Store.KeyValue.get?_insert_of_ne _ _ hSame, Store.KeyValue.get?_insert_of_ne _ _ hSame]
      exact h headers' peer' later

/-- A demand on a limiter that keeps apart changes nothing that is looked at. -/
theorem AgreeOn.others (h : AgreeOn config data data') (hApart : KeysApart config other)
    (hNames : config.limiterName ≠ other.limiterName) (hOther : IsTo other demand)
    (quota : Gcra.Quota ℚ) :
    AgreeOn config (data.count demand.time demand.key quota).2 data' := by
  obtain ⟨-, headers', peer', hKey⟩ := hOther
  intro headers peer later
  rw [hKey, Data.get?_count_of_ne data (hApart headers peer headers' peer' (.inl hNames))]
  exact h headers peer later

/-- Along a run the store that counts all requests agrees with one that counts those to one limiter. -/
theorem AgreeOn.told (hApart : KeysApart config other)
    (hNames : config.limiterName ≠ other.limiterName) {own : Demand → Bool} {demands : List Demand}
    (hTo : ∀ demand ∈ demands, if own demand then IsTo config demand else IsTo other demand)
    (h : AgreeOn config data data') :
    (demands.zip (answers Data.count data demands)).filter (fun told => own told.1) =
      (demands.filter own).zip (answers Data.count data' (demands.filter own)) := by
  induction demands generalizing data data' with
  | nil => rfl
  | cons demand rest ih =>
      have hFirst := hTo demand (List.mem_cons_self ..)
      have hRest : ∀ later ∈ rest, if own later then IsTo config later else IsTo other later :=
        fun later hLater => hTo later (List.mem_cons_of_mem _ hLater)
      cases hOwn : own demand with
      | true =>
          rw [hOwn, if_pos rfl] at hFirst
          obtain ⟨hVerdict, hNext⟩ := h.own hFirst demand.limit.exactQuota
          simp only [answers, List.filter_cons, List.zip_cons_cons, hOwn, if_true]
          rw [hVerdict, ih hRest hNext]
      | false =>
          rw [hOwn, if_neg Bool.false_ne_true] at hFirst
          have hNext := h.others hApart hNames hFirst demand.limit.exactQuota
          simp only [answers, List.filter_cons, List.zip_cons_cons, hOwn, Bool.false_eq_true, if_false]
          exact ih hRest hNext

/-- Limiters that keep apart count as if each had a store of its own. -/
theorem KeysApart.countsAlone (h : KeysApart config other)
    (hNames : config.limiterName ≠ other.limiterName) : CountsAlone config other :=
  fun _ _ _ hTo => AgreeOn.told h hNames hTo fun _ _ _ => rfl

end Agreement

/-- Two clients of one limiter never have a counter in common. Neither have two limiters, unless one
name continues the other; and if none does, neither limiter uses up what the other grants. -/
theorem keys_apart_unless_continued (config other : Config) :
    KeysApart config config ∧
    (KeysApart config other ↔
      ¬ Continues config.limiterName other.limiterName ∧
        ¬ Continues other.limiterName config.limiterName) ∧
    (KeysApart config other → config.limiterName ≠ other.limiterName →
      CountsAlone config other ∧ CountsAlone other config) :=
  ⟨keysApart_self config, keysApart_iff config other, fun hApart hNames =>
    ⟨hApart.countsAlone hNames, hApart.symm.countsAlone hNames.symm⟩⟩

/-- Names without a colon do not continue each other. -/
theorem global_apart_from_login :
    let whole : Config := ⟨"global", ⟨10, 20, .ofSeconds 1⟩⟩
    let login : Config := ⟨"login", ⟨1, 1, .ofSeconds 60⟩⟩
    KeysApart whole login ∧ CountsAlone whole login ∧ CountsAlone login whole := by
  intro whole login
  obtain ⟨-, hApart, hAlone⟩ := keys_apart_unless_continued whole login
  have hKeys : KeysApart whole login :=
    hApart.mpr ⟨fun h => absurd h.mem_colon (by decide), fun h => absurd h.mem_colon (by decide)⟩
  exact ⟨hKeys, hAlone hKeys (by decide)⟩

/-- A client of one limiter comes from `2001:db8::1`. The other one has the start of that in its name, and
its client is reported as `db8::1`: it finds the counter used up. -/
theorem continued_name_shares_counter :
    let login : Config := ⟨"login", ⟨1, 1, .ofSeconds 60⟩⟩
    let subnet : Config := ⟨"login:2001", ⟨1, 1, .ofSeconds 60⟩⟩
    let client := clientName .empty (some (.v6 [0x2001, 0xdb8, 0, 0, 0, 0, 0, 1]))
    let another := clientName ⟨[("x-real-ip", Bytes.ofText "db8::1")]⟩ none
    let first : Demand := ⟨1500000000000000, login.key client, login.limit⟩
    let second : Demand := ⟨1500000000000000, subnet.key another, subnet.limit⟩
    login.limiterName ≠ subnet.limiterName ∧ login.key client = subnet.key another ∧
      ¬ KeysApart login subnet ∧
      (answers Data.count .empty [second]).map (·.allowed) = [true] ∧
      (answers Data.count .empty [first, second]).map (·.allowed) = [true, false] := by
  intro login subnet client another first second
  have hNames : login.limiterName ≠ subnet.limiterName := by
    decide
  have hKeys : login.key client = subnet.key another := by
    decide +kernel
  exact ⟨hNames, hKeys, fun h => h _ _ _ _ (.inl hNames) hKeys, by decide +kernel,
    by decide +kernel⟩

end Gatehouse.RateLimit
