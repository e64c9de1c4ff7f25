import Gatehouse.Proofs.Execution
import Gatehouse.Proofs.Shelving
import Gatehouse.Surroundings.Crowd

/-! Forgetting a domain while others look it up. A find that had its answer before the directory
changed may still have to write it when the domain is forgotten. Every find after that answers as
the directory does exactly if there is no such straggler. -/
namespace Gatehouse

/-- Events do not change how a program ends. -/
theorem Program.ending_pastEvents {σ α : Type} {world : World σ} {deadline : Option Duration}
    (p : Program α) (scene : Scene σ) :
    (p.pastEvents.run world deadline scene).ending = (p.run world deadline scene).ending := by
  induction p with
  | done value => rfl
  | log event rest ih => exact ih
  | visit change next ih => rfl
  | ask call holds next ih => rfl

theorem Program.pastEvents_foldr {α : Type} (events : List Event) (p : Program α) :
    (events.foldr .log p).pastEvents = p.pastEvents := by
  induction events with
  | nil => rfl
  | cons event rest ih => exact ih

/-- Events in front of a program stay in front of what follows it. -/
theorem Program.bind_foldr {α β : Type} (events : List Event) (p : Program α)
    (f : α → Program β) : (events.foldr .log p).bind f = events.foldr .log (p.bind f) := by
  induction events with
  | nil => rfl
  | cons event rest ih => exact congrArg (Program.log event) ih

namespace Surroundings

open Tenant

variable {cache : Cache} {inner : Dispatcher} {domain : String}

/-! ## A cache that works -/

theorem Shelf.wait_zero (shelf : Shelf) : shelf.wait 0 = shelf := by
  simp [Shelf.wait]

theorem working_lookup (directory : Directory) (shelf : Shelf) (domain : String) :
    shelved working (.lookup domain) (directory, shelf) =
      (.after .zero (directory domain), directory, shelf) := by
  unfold shelved
  dsimp only [working, Shelf.meanwhile]
  rw [Shelf.wait_zero]
  rfl

theorem working_readCache (directory : Directory) (shelf : Shelf) (key : String) :
    shelved working (.readCache key) (directory, shelf) =
      (.after .zero (.ok (shelf.data.read shelf.clock key)), directory, shelf) := by
  unfold shelved
  dsimp only [working, Shelf.meanwhile, Shelf.answer]
  rw [Shelf.wait_zero, Shelf.readValue_get, Shelf.perform_get]
  rfl

theorem working_writeCache (directory : Directory) (shelf : Shelf) (key id : String)
    (ttl : Duration) :
    shelved working (.writeCache key id ttl) (directory, shelf) =
      (.after .zero (.ok ()), directory,
        (shelf.perform (.set key id ttl.secondsAtLeastOne)).2) := by
  unfold shelved
  dsimp only [working, Shelf.meanwhile, Shelf.answer]
  rw [Shelf.wait_zero]
  rfl

theorem working_deleteCache (directory : Directory) (shelf : Shelf) (key : String) :
    ∃ removed, shelved working (.deleteCache key) (directory, shelf) =
      (.after .zero (.ok removed), directory, (shelf.perform (.delete key)).2) := by
  unfold shelved
  dsimp only [working, Shelf.meanwhile, Shelf.answer]
  rw [Shelf.wait_zero]
  exact ⟨_, rfl⟩

/-! ## Parties -/

/-- What is left of a find that was not helped by the cache. -/
def asking (cache : Cache) (inner : Dispatcher) (domain : String) : Program Result :=
  (findMissed cache inner domain).bind fun answer => .done (.found answer)

/-- What is left of a find that has an id. -/
def writing (cache : Cache) (domain id : String) : Program Result :=
  ((cache.write domain id).bind fun _ => .done (.ok id)).bind fun answer => .done (.found answer)

/-- A find reads the cache first, and asks the directory if there is nothing. -/
theorem find_program_eq (cache : Cache) (inner : Dispatcher) (domain : String) :
    ∃ next, (Operation.find domain).program cache inner =
        .ask (.readCache (cache.key domain)) [] next ∧
      (∀ id, next (.ok (some id)) = .done (.found (.ok id))) ∧
      next (.ok none) = asking cache inner domain :=
  ⟨_, rfl, fun _ => rfl, rfl⟩

/-- An id of the directory is written to the cache before it is told, an error is told. -/
theorem asking_eq (cache : Cache) (hInner : IsDirect inner) (domain : String) :
    ∃ next, asking cache inner domain = .ask (.lookup domain) [] next ∧
      (∀ id, (next (.ok id)).pastEvents = writing cache domain id) ∧
      ∀ error, (next (.error error)).pastEvents = .done (.found (told inner (.error error))) := by
  obtain ⟨events, hFind⟩ := find_eq_of_isDirect hInner domain
  refine ⟨_, by rw [asking, findMissed, hFind]; rfl, fun id => ?_, fun error => ?_⟩
  · dsimp only
    rw [told_eq_ok_iff.mpr rfl, Program.bind_foldr, Program.bind_foldr, Program.pastEvents_foldr]
    rfl
  · obtain ⟨shown, hShown⟩ := exists_told_error inner error
    dsimp only
    rw [hShown, Program.bind_foldr, Program.bind_foldr, Program.pastEvents_foldr]
    rfl

theorem pastEvents_asking (cache : Cache) (hInner : IsDirect inner) (domain : String) :
    (asking cache inner domain).pastEvents = asking cache inner domain := by
  obtain ⟨next, hAsking, -⟩ := asking_eq cache hInner domain
  rw [hAsking]
  rfl

theorem pastEvents_program (cache : Cache) (inner : Dispatcher) (operation : Operation) :
    (operation.program cache inner).pastEvents = operation.program cache inner := by
  cases operation with
  | find domain => rfl
  | invalidate domain => rfl

theorem writing_eq (cache : Cache) (domain id : String) :
    ∃ next, writing cache domain id =
        .ask (.writeCache (cache.key domain) id cache.ttl) [] next ∧
      next (.ok ()) = .done (.found (.ok id)) :=
  ⟨_, rfl, rfl⟩

/-- To forget a domain takes one deletion. -/
theorem invalidate_program_eq (cache : Cache) (inner : Dispatcher) (domain : String) :
    ∃ next, (Operation.invalidate domain).program cache inner =
        .ask (.deleteCache (cache.key domain)) [] next ∧
      ∀ removed, next (.ok removed) = .done (.forgotten (.ok (decide (0 < removed)))) :=
  ⟨_, rfl, fun _ => rfl⟩

/-- All that can be left of an operation. -/
inductive Stage (cache : Cache) (inner : Dispatcher) : Party → Prop
  | reading (domain : String) :
      Stage cache inner ⟨.find domain, (Operation.find domain).program cache inner⟩
  | asking (domain : String) : Stage cache inner ⟨.find domain, asking cache inner domain⟩
  | writing (domain id : String) : Stage cache inner ⟨.find domain, writing cache domain id⟩
  | found (domain : String) (answer : Except LookupError String) :
      Stage cache inner ⟨.find domain, .done (.found answer)⟩
  | deleting (domain : String) :
      Stage cache inner ⟨.invalidate domain, (Operation.invalidate domain).program cache inner⟩
  | forgotten (domain : String) (answer : Except Store.Error Bool) :
      Stage cache inner ⟨.invalidate domain, .done (.forgotten answer)⟩

/-- From one stage to the next, with the shelf after it. -/
inductive Going (cache : Cache) (inner : Dispatcher) (directory : Directory) (shelf : Shelf) :
    Party → Party → Shelf → Prop
  | hit (domain id : String)
      (hRead : shelf.data.read shelf.clock (cache.key domain) = some id) :
      Going cache inner directory shelf ⟨.find domain, (Operation.find domain).program cache inner⟩
        ⟨.find domain, .done (.found (.ok id))⟩ shelf
  | missed (domain : String) (hRead : shelf.data.read shelf.clock (cache.key domain) = none) :
      Going cache inner directory shelf ⟨.find domain, (Operation.find domain).program cache inner⟩
        ⟨.find domain, asking cache inner domain⟩ shelf
  | refused (domain : String) (error : LookupError) (hError : directory domain = .error error) :
      Going cache inner directory shelf ⟨.find domain, asking cache inner domain⟩
        ⟨.find domain, .done (.found (told inner (.error error)))⟩ shelf
  | answered (domain id : String) (hOk : directory domain = .ok id) :
      Going cache inner directory shelf ⟨.find domain, asking cache inner domain⟩
        ⟨.find domain, writing cache domain id⟩ shelf
  | written (domain id : String) :
      Going cache inner directory shelf ⟨.find domain, writing cache domain id⟩
        ⟨.find domain, .done (.found (.ok id))⟩
        (shelf.perform (.set (cache.key domain) id cache.ttl.secondsAtLeastOne)).2
  | deleted (domain : String) (removed : Bool) :
      Going cache inner directory shelf
        ⟨.invalidate domain, (Operation.invalidate domain).program cache inner⟩
        ⟨.invalidate domain, .done (.forgotten (.ok removed))⟩
        (shelf.perform (.delete (cache.key domain))).2

/-- A party goes on by one call, and leaves the others where they are. -/
theorem proceed_eq {crowd : Crowd} {index : Nat} {operation : Operation} {call : Call}
    {holds : List Hold} {next : call.Answer → Program Result} {delay : Duration}
    {answer : call.Answer} {state : Directory × Shelf}
    (hParty : crowd.parties[index]? = some ⟨operation, .ask call holds next⟩)
    (hAnswer : shelved working call (crowd.directory, crowd.shelf) = (.after delay answer, state)) :
    crowd.proceed index =
      some ⟨state.1, state.2, crowd.parties.set index ⟨operation, (next answer).pastEvents⟩⟩ := by
  simp [Crowd.proceed, hParty, hAnswer]

/-- A party that is through does not go on. -/
theorem proceed_of_done {crowd : Crowd} {index : Nat} {party : Party} {result : Result}
    (hParty : crowd.parties[index]? = some party) (hDone : party.rest = .done result) :
    crowd.proceed index = none := by
  obtain ⟨operation, rest⟩ := party
  cases hDone
  simp [Crowd.proceed, hParty]

/-- A party that is not done can go on, and goes to its next stage. -/
theorem proceed_of_stage (hInner : IsDirect inner) {crowd : Crowd} {index : Nat} {party : Party}
    (hParty : crowd.parties[index]? = some party) (hStage : Stage cache inner party) :
    (∃ result, party.rest = .done result) ∨
      ∃ gone shelf, Going cache inner crowd.directory crowd.shelf party gone shelf ∧
        crowd.proceed index = some ⟨crowd.directory, shelf, crowd.parties.set index gone⟩ := by
  cases hStage with
  | reading domain =>
      obtain ⟨next, hProgram, hHit, hMissed⟩ := find_program_eq cache inner domain
      rw [hProgram] at hParty
      have hProceed := proceed_eq hParty (working_readCache ..)
      right
      cases hRead : crowd.shelf.data.read crowd.shelf.clock (cache.key domain) with
      | some id =>
          rw [hRead, hHit] at hProceed
          exact ⟨_, _, .hit domain id hRead, hProceed⟩
      | none =>
          rw [hRead, hMissed, pastEvents_asking cache hInner] at hProceed
          exact ⟨_, _, .missed domain hRead, hProceed⟩
  | asking domain =>
      obtain ⟨next, hProgram, hOk, hError⟩ := asking_eq cache hInner domain
      rw [hProgram] at hParty
      have hProceed := proceed_eq hParty (working_lookup ..)
      right
      cases hAnswer : crowd.directory domain with
      | ok id =>
          rw [hAnswer, hOk] at hProceed
          exact ⟨_, _, .answered domain id hAnswer, hProceed⟩
      | error error =>
          rw [hAnswer, hError] at hProceed
          exact ⟨_, _, .refused domain error hAnswer, hProceed⟩
  | writing domain id =>
      obtain ⟨next, hProgram, hOk⟩ := writing_eq cache domain id
      rw [hProgram] at hParty
      have hProceed := proceed_eq hParty (working_writeCache ..)
      rw [hOk] at hProceed
      exact .inr ⟨_, _, .written domain id, hProceed⟩
  | found domain answer => exact .inl ⟨_, rfl⟩
  | deleting domain =>
      obtain ⟨next, hProgram, hOk⟩ := invalidate_program_eq cache inner domain
      obtain ⟨removed, hRemoved⟩ :=
        working_deleteCache crowd.directory crowd.shelf (cache.key domain)
      rw [hProgram] at hParty
      have hProceed := proceed_eq hParty hRemoved
      rw [hOk] at hProceed
      exact .inr ⟨_, _, .deleted domain _, hProceed⟩
  | forgotten domain answer => exact .inl ⟨_, rfl⟩

/-- Wherever a party gets, it is at a stage of its operation. -/
theorem Going.stage {directory : Directory} {shelf after : Shelf} {party gone : Party}
    (h : Going cache inner directory shelf party gone after) : Stage cache inner gone := by
  cases h with
  | hit domain id _ => exact .found domain (.ok id)
  | missed domain _ => exact .asking domain
  | refused domain error _ => exact .found domain _
  | answered domain id _ => exact .writing domain id
  | written domain id => exact .found domain (.ok id)
  | deleted domain removed => exact .forgotten domain (.ok removed)

/-! ## Crowds -/

/-- All that a move can do to a crowd. -/
inductive Stepped (cache : Cache) (inner : Dispatcher) (crowd : Crowd) : Move → Crowd → Prop
  | started (operation : Operation) :
      Stepped cache inner crowd (.start operation)
        ⟨crowd.directory, crowd.shelf,
          crowd.parties ++ [⟨operation, operation.program cache inner⟩]⟩
  | went (index : Nat) (party gone : Party) (hParty : crowd.parties[index]? = some party)
      (shelf : Shelf) (hGoing : Going cache inner crowd.directory crowd.shelf party gone shelf) :
      Stepped cache inner crowd (.proceed index)
        ⟨crowd.directory, shelf, crowd.parties.set index gone⟩
  | changed (domain : String) (answer : Except LookupError String) :
      Stepped cache inner crowd (.change domain answer)
        ⟨fun name => if name = domain then answer else crowd.directory name, crowd.shelf,
          crowd.parties⟩
  | waited (microseconds : Nat) :
      Stepped cache inner crowd (.wait microseconds)
        ⟨crowd.directory, crowd.shelf.wait microseconds, crowd.parties⟩

/-- Every party is at some stage. -/
def Orderly (cache : Cache) (inner : Dispatcher) (crowd : Crowd) : Prop :=
  ∀ party ∈ crowd.parties, Stage cache inner party

/-- All that a step can do, with what it leaves. -/
theorem stepped_of_step (hInner : IsDirect inner) {crowd next : Crowd}
    (hOrderly : Orderly cache inner crowd) {move : Move}
    (h : crowd.step cache inner move = some next) : Stepped cache inner crowd move next := by
  cases move with
  | start operation =>
      cases h
      rw [pastEvents_program]
      exact .started operation
  | proceed index =>
      change crowd.proceed index = some next at h
      cases hParty : crowd.parties[index]? with
      | none => simp [Crowd.proceed, hParty] at h
      | some party =>
          rcases proceed_of_stage hInner hParty (hOrderly party (List.mem_of_getElem? hParty)) with
            ⟨result, hDone⟩ | ⟨gone, shelf, hGoing, hProceed⟩
          · rw [proceed_of_done hParty hDone] at h
            cases h
          · rw [hProceed] at h
            cases h
            exact .went index party gone hParty shelf hGoing
  | change domain answer =>
      cases h
      exact .changed domain answer
  | wait microseconds =>
      cases h
      exact .waited microseconds

/-- A step leaves every party at a stage of its operation. -/
theorem Stepped.orderly {crowd next : Crowd} {move : Move}
    (h : Stepped cache inner crowd move next) (hOrderly : Orderly cache inner crowd) :
    Orderly cache inner next := by
  cases h with
  | started operation =>
      intro party hParty
      rcases List.mem_append.mp hParty with hOld | hNew
      · exact hOrderly party hOld
      · rw [List.mem_singleton.mp hNew]
        cases operation with
        | find domain => exact .reading domain
        | invalidate domain => exact .deleting domain
  | went index party gone hParty shelf hGoing =>
      intro other hOther
      rcases List.mem_or_eq_of_mem_set hOther with hOld | rfl
      · exact hOrderly other hOld
      · exact hGoing.stage
  | changed domain answer => exact hOrderly
  | waited microseconds => exact hOrderly

/-- What every step keeps, a run keeps. The moves may be restricted. -/
theorem run_induction (hInner : IsDirect inner) (kept : Crowd → Prop) (allowed : Move → Prop)
    (hStep : ∀ crowd move next, Orderly cache inner crowd → kept crowd → allowed move →
      Stepped cache inner crowd move next → kept next)
    {crowd later : Crowd} {moves : List Move} (hOrderly : Orderly cache inner crowd)
    (hKept : kept crowd) (hMoves : ∀ move ∈ moves, allowed move)
    (hRun : crowd.run cache inner moves = some later) : Orderly cache inner later ∧ kept later := by
  induction moves generalizing crowd with
  | nil =>
      cases hRun
      exact ⟨hOrderly, hKept⟩
  | cons move rest ih =>
      unfold Crowd.run at hRun
      cases hNext : crowd.step cache inner move with
      | none =>
          rw [hNext] at hRun
          cases hRun
      | some next =>
          rw [hNext] at hRun
          have hStepped := stepped_of_step hInner hOrderly hNext
          exact ih (hStepped.orderly hOrderly)
            (hStep crowd move next hOrderly hKept (hMoves move (List.mem_cons_self ..)) hStepped)
            (fun other hOther => hMoves other (List.mem_cons_of_mem _ hOther)) hRun

/-! ## After forgetting -/

/-- The entry for a domain has the answer of the directory. -/
def Current (cache : Cache) (domain : String) (answer : Except LookupError String)
    (shelf : Shelf) : Prop :=
  ∀ entry, shelf.held? (cache.key domain) = some entry →
    ∃ id expiry, entry = ⟨.text id, expiry⟩ ∧ answer = .ok id

/-- What is on the shelf is the answer of the directory, if it is current. -/
theorem Current.of_read {answer : Except LookupError String} {shelf : Shelf}
    (h : Current cache domain answer shelf) {id : String}
    (hRead : shelf.data.read shelf.clock (cache.key domain) = some id) : answer = .ok id := by
  obtain ⟨expiry, hHeld, -⟩ := Shelf.held?_of_read hRead
  obtain ⟨other, time, hSame, hAnswer⟩ := h _ hHeld
  cases hSame
  exact hAnswer

/-- What is done under the key of another domain leaves the entry as it is. -/
theorem Current.perform {answer : Except LookupError String} {shelf : Shelf}
    (h : Current cache domain answer shelf) {name : String} (hName : name ≠ domain)
    {command : Store.Command} (hKey : command.key = cache.key name) :
    Current cache domain answer (shelf.perform command).2 := by
  have hOther : cache.key domain ≠ command.key := by
    rw [hKey]
    exact fun hSame => hName (key_injective cache hSame).symm
  intro entry hEntry
  rw [shelf.held?_perform_of_ne hOther] at hEntry
  exact h entry hEntry

/-- Nothing but the answer of the directory is or will be cached for a domain, and all finds of it
that came after the first `count` parties tell that answer when they are done. -/
structure Settled (inner : Dispatcher) (cache : Cache) (domain : String)
    (answer : Except LookupError String) (count : Nat) (crowd : Crowd) : Prop where
  directory : crowd.directory domain = answer
  entry : Current cache domain answer crowd.shelf
  writer : ∀ party ∈ crowd.parties, ∀ id, party.Writes (cache.key domain) id → answer = .ok id
  reader : ∀ index party, count ≤ index → crowd.parties[index]? = some party →
    party.operation = .find domain → ∀ result, party.rest = .done result →
      result = .found (told inner answer)

theorem not_writes_done {operation : Operation} {result : Result} {key value : String} :
    ¬ (⟨operation, .done result⟩ : Party).Writes key value := by
  rintro ⟨ttl, holds, next, hRest⟩
  cases hRest

theorem not_writes_asking (hInner : IsDirect inner) {operation : Operation}
    {name key value : String} :
    ¬ (⟨operation, asking cache inner name⟩ : Party).Writes key value := by
  rintro ⟨ttl, holds, next, hRest⟩
  obtain ⟨other, hAsking, -⟩ := asking_eq cache hInner name
  rw [hAsking] at hRest
  cases hRest

theorem asking_ne_done (hInner : IsDirect inner) (name : String) (result : Result) :
    asking cache inner name ≠ .done result := by
  obtain ⟨next, hAsking, -⟩ := asking_eq cache hInner name
  rw [hAsking]
  rintro ⟨⟩

theorem program_ne_done (operation : Operation) (result : Result) :
    operation.program cache inner ≠ .done result := by
  cases operation with
  | find name => rintro ⟨⟩
  | invalidate name => rintro ⟨⟩

theorem not_writes_program {operation : Operation} {key value : String} :
    ¬ (⟨operation, operation.program cache inner⟩ : Party).Writes key value := by
  rintro ⟨ttl, holds, next, hRest⟩
  cases operation with
  | find name => cases hRest
  | invalidate name => cases hRest

/-- A party writes the key of its own domain. -/
theorem eq_of_writes_writing {operation : Operation} {name id other : String}
    (h : (⟨operation, writing cache name id⟩ : Party).Writes (cache.key domain) other) :
    domain = name ∧ other = id := by
  obtain ⟨ttl, holds, rest, hRest⟩ := h
  rw [(writing_eq cache name id).choose_spec.1] at hRest
  injection hRest with hCall
  injection hCall with hKey hId
  exact ⟨(key_injective cache hKey).symm, hId.symm⟩

variable {answer : Except LookupError String} {count : Nat} {crowd next : Crowd}

/-- What a party does to a crowd in which all is settled is settled too. -/
theorem Settled.going (hInner : IsDirect inner)
    (h : Settled inner cache domain answer count crowd) {party gone : Party}
    (hParty : party ∈ crowd.parties) {shelf : Shelf}
    (hGoing : Going cache inner crowd.directory crowd.shelf party gone shelf) :
    Current cache domain answer shelf ∧
      (∀ id, gone.Writes (cache.key domain) id → answer = .ok id) ∧
      (gone.operation = .find domain → ∀ result, gone.rest = .done result →
        result = .found (told inner answer)) := by
  cases hGoing with
  | hit name id hRead =>
      refine ⟨h.entry, fun _ hWrites => (not_writes_done hWrites).elim, ?_⟩
      rintro ⟨⟩ result ⟨⟩
      rw [told_eq_ok_iff.mpr (h.entry.of_read hRead)]
  | missed name hRead =>
      exact ⟨h.entry, fun _ hWrites => (not_writes_asking hInner hWrites).elim,
        fun _ result hDone => (asking_ne_done hInner name result hDone).elim⟩
  | refused name error hError =>
      refine ⟨h.entry, fun _ hWrites => (not_writes_done hWrites).elim, ?_⟩
      rintro ⟨⟩ result ⟨⟩
      rw [← h.directory, hError]
  | answered name id hOk =>
      refine ⟨h.entry, fun other hWrites => ?_, fun _ result hDone => by cases hDone⟩
      obtain ⟨rfl, rfl⟩ := eq_of_writes_writing hWrites
      rw [← h.directory, hOk]
  | written name id =>
      have hOwn : name = domain → answer = .ok id := by
        rintro rfl
        exact h.writer _ hParty id ⟨_, _, _, rfl⟩
      refine ⟨?_, fun _ hWrites => (not_writes_done hWrites).elim, ?_⟩
      · by_cases hName : name = domain
        · subst hName
          intro entry hEntry
          rw [Shelf.held?_set] at hEntry
          cases hEntry
          exact ⟨id, _, rfl, hOwn rfl⟩
        · exact h.entry.perform hName rfl
      · rintro ⟨⟩ result ⟨⟩
        rw [told_eq_ok_iff.mpr (hOwn rfl)]
  | deleted name removed =>
      refine ⟨?_, fun _ hWrites => (not_writes_done hWrites).elim, by rintro ⟨⟩⟩
      by_cases hName : name = domain
      · subst hName
        intro entry hEntry
        rw [Shelf.held?_delete] at hEntry
        cases hEntry
      · exact h.entry.perform hName rfl

/-- Once all is settled it stays so, until the directory changes. -/
theorem Settled.step (hInner : IsDirect inner)
    (h : Settled inner cache domain answer count crowd) {move : Move}
    (hMove : ∀ other, move ≠ .change domain other)
    (hStepped : Stepped cache inner crowd move next) :
    Settled inner cache domain answer count next := by
  cases hStepped with
  | started operation =>
      refine ⟨h.directory, h.entry, ?_, ?_⟩
      · intro party hParty id hWrites
        rcases List.mem_append.mp hParty with hOld | hNew
        · exact h.writer party hOld id hWrites
        · obtain rfl := List.mem_singleton.mp hNew
          exact (not_writes_program hWrites).elim
      · intro index party hIndex hParty hOperation result hDone
        rw [List.getElem?_append] at hParty
        split at hParty
        · exact h.reader index party hIndex hParty hOperation result hDone
        · obtain rfl := List.mem_singleton.mp (List.mem_of_getElem? hParty)
          exact (program_ne_done operation result hDone).elim
  | went index party gone hParty shelf hGoing =>
      obtain ⟨hEntry, hWrites, hReads⟩ := h.going hInner (List.mem_of_getElem? hParty) hGoing
      refine ⟨h.directory, hEntry, ?_, ?_⟩
      · intro other hOther id hWriting
        rcases List.mem_or_eq_of_mem_set hOther with hOld | rfl
        · exact h.writer other hOld id hWriting
        · exact hWrites id hWriting
      · intro place other hPlace hOther hOperation result hDone
        rw [List.getElem?_set] at hOther
        split at hOther
        · split at hOther
          · cases hOther
            exact hReads hOperation result hDone
          · cases hOther
        · exact h.reader place other hPlace hOther hOperation result hDone
  | changed name other =>
      have hName : domain ≠ name := by
        rintro rfl
        exact hMove other rfl
      exact ⟨by simpa [hName] using h.directory, h.entry, h.writer, h.reader⟩
  | waited microseconds => exact ⟨h.directory, h.entry, h.writer, h.reader⟩

/-! ## Alone -/

/-- A party ends as it does after its next call, if nobody else goes on. -/
theorem ending_ask {operation : Operation} {call : Call} {holds : List Hold}
    {rest : call.Answer → Program Result} {answer : call.Answer} {state : Directory × Shelf}
    (hAnswer : shelved working call (crowd.directory, crowd.shelf) = (.after .zero answer, state)) :
    crowd.ending ⟨operation, .ask call holds rest⟩ =
      Crowd.ending ⟨state.1, state.2, crowd.parties⟩ ⟨operation, (rest answer).pastEvents⟩ := by
  unfold Crowd.ending
  rw [Program.ending_pastEvents, Program.run_ask]
  simp [Scene.ask, Scene.fresh, hAnswer, endsInTime, Duration.zero]

theorem ending_done {operation : Operation} {result : Result} :
    crowd.ending ⟨operation, .done result⟩ = .finished result := rfl

theorem ending_writing (operation : Operation) (name id : String) :
    crowd.ending ⟨operation, writing cache name id⟩ = .finished (.found (.ok id)) := by
  obtain ⟨next, hWriting, hOk⟩ := writing_eq cache name id
  rw [hWriting, ending_ask (working_writeCache ..), hOk]
  rfl

/-- Without others a party that asks now is told what the directory has now. -/
theorem ending_asking (hInner : IsDirect inner) (operation : Operation) (name : String) :
    crowd.ending ⟨operation, asking cache inner name⟩ =
      .finished (.found (told inner (crowd.directory name))) := by
  obtain ⟨next, hAsking, hOk, hError⟩ := asking_eq cache hInner name
  rw [hAsking, ending_ask (working_lookup ..)]
  cases crowd.directory name with
  | ok id => rw [hOk, ending_writing, told_eq_ok_iff.mpr rfl]
  | error error => rw [hError, ending_done]

/-- A find that has not begun will tell what is cached, or else what the directory answers. -/
theorem ending_find (hInner : IsDirect inner) (operation : Operation) (name : String) :
    crowd.ending ⟨operation, (Operation.find name).program cache inner⟩ = .finished (.found
      (match crowd.shelf.data.read crowd.shelf.clock (cache.key name) with
      | some cached => .ok cached
      | none => told inner (crowd.directory name))) := by
  obtain ⟨next, hProgram, hHit, hMissed⟩ := find_program_eq cache inner name
  rw [hProgram, ending_ask (working_readCache ..)]
  cases crowd.shelf.data.read crowd.shelf.clock (cache.key name) with
  | some id =>
      rw [hHit]
      rfl
  | none => rw [hMissed, pastEvents_asking cache hInner, ending_asking hInner]

/-- Once all is settled, every find that came after tells the answer of the directory. -/
theorem Settled.ending (hInner : IsDirect inner) (hOrderly : Orderly cache inner crowd)
    (h : Settled inner cache domain answer count crowd) {index : Nat} {party : Party}
    (hIndex : count ≤ index) (hParty : crowd.parties[index]? = some party)
    (hOperation : party.operation = .find domain) :
    crowd.ending party = .finished (.found (told inner answer)) := by
  have hMem : party ∈ crowd.parties := List.mem_of_getElem? hParty
  cases hOrderly party hMem with
  | reading name =>
      cases hOperation
      rw [ending_find hInner, h.directory]
      cases hRead : crowd.shelf.data.read crowd.shelf.clock (cache.key domain) with
      | none => rfl
      | some id =>
          rw [told_eq_ok_iff.mpr (h.entry.of_read hRead)]
  | asking name =>
      cases hOperation
      rw [ending_asking hInner, h.directory]
  | writing name id =>
      cases hOperation
      rw [ending_writing, told_eq_ok_iff.mpr (h.writer _ hMem id ⟨_, _, _, rfl⟩)]
  | found name result =>
      rw [ending_done, h.reader index _ hIndex hParty hOperation _ rfl]
  | deleting name => cases hOperation
  | forgotten name result => cases hOperation

/-- When the key of a domain is deleted and nobody has yet to write another id than the directory's,
all is settled. -/
theorem settled_of_delete {index : Nat} {removed : Bool}
    (hWriters : ∀ writer ∈ crowd.parties, ∀ id, writer.Writes (cache.key domain) id →
      crowd.directory domain = .ok id) :
    Settled inner cache domain (crowd.directory domain) crowd.parties.length
      ⟨crowd.directory, (crowd.shelf.perform (.delete (cache.key domain))).2,
        crowd.parties.set index ⟨.invalidate domain, .done (.forgotten (.ok removed))⟩⟩ := by
  refine ⟨rfl, ?_, ?_, ?_⟩
  · intro entry hEntry
    rw [Shelf.held?_delete] at hEntry
    cases hEntry
  · intro party hParty id hWrites
    rcases List.mem_or_eq_of_mem_set hParty with hOld | rfl
    · exact hWriters party hOld id hWrites
    · exact (not_writes_done hWrites).elim
  · intro place party hPlace hParty
    rw [List.getElem?_eq_none (by simpa using hPlace)] at hParty
    cases hParty

/-- A party that forgets a domain can always go on. -/
theorem proceed_of_deleting (hInner : IsDirect inner) (hOrderly : Orderly cache inner crowd)
    {index : Nat} {party : Party} (hParty : crowd.parties[index]? = some party)
    (hOperation : party.operation = .invalidate domain)
    (hGoing : ∀ result, party.rest ≠ .done result) :
    ∃ removed, crowd.proceed index = some
      ⟨crowd.directory, (crowd.shelf.perform (.delete (cache.key domain))).2,
        crowd.parties.set index ⟨.invalidate domain, .done (.forgotten (.ok removed))⟩⟩ := by
  rcases proceed_of_stage hInner hParty (hOrderly party (List.mem_of_getElem? hParty)) with
    ⟨result, hDone⟩ | ⟨gone, shelf, hNext, hProceed⟩
  · exact (hGoing result hDone).elim
  · cases hNext with
    | deleted name removed =>
        cases hOperation
        exact ⟨removed, hProceed⟩
    | hit name id hRead => cases hOperation
    | missed name hRead => cases hOperation
    | refused name error hError => cases hOperation
    | answered name id hOk => cases hOperation
    | written name id => cases hOperation

/-- Only a find that has its answer from the directory is about to write. -/
theorem eq_of_writes (hInner : IsDirect inner) {party : Party} {id : String}
    (hStage : Stage cache inner party) (h : party.Writes (cache.key domain) id) :
    party = ⟨.find domain, writing cache domain id⟩ := by
  cases hStage with
  | reading name => exact (not_writes_program h).elim
  | asking name => exact (not_writes_asking hInner h).elim
  | writing name other =>
      obtain ⟨rfl, rfl⟩ := eq_of_writes_writing h
      rfl
  | found name result => exact (not_writes_done h).elim
  | deleting name => exact (not_writes_program h).elim
  | forgotten name result => exact (not_writes_done h).elim

/-- A straggler that writes makes the next find tell what it wrote. -/
theorem ending_after_straggler (hInner : IsDirect inner) (hOrderly : Orderly cache inner crowd)
    {index : Nat} {writer : Party} (hWriter : crowd.parties[index]? = some writer) {id : String}
    (hWrites : writer.Writes (cache.key domain) id) :
    ∃ later reader, crowd.run cache inner [.proceed index, .start (.find domain)] = some later ∧
      later.parties[crowd.parties.length]? = some reader ∧ reader.operation = .find domain ∧
      later.ending reader = .finished (.found (.ok id)) := by
  obtain rfl := eq_of_writes hInner (hOrderly writer (List.mem_of_getElem? hWriter)) hWrites
  obtain ⟨next, hWriting, hOk⟩ := writing_eq cache domain id
  rw [hWriting] at hWriter
  have hProceed := proceed_eq hWriter (working_writeCache ..)
  let reader : Party := ⟨.find domain, (Operation.find domain).program cache inner⟩
  have hRun : crowd.run cache inner [.proceed index, .start (.find domain)] = some
      ⟨crowd.directory,
        (crowd.shelf.perform (.set (cache.key domain) id cache.ttl.secondsAtLeastOne)).2,
        crowd.parties.set index ⟨.find domain, (next (.ok ())).pastEvents⟩ ++ [reader]⟩ := by
    simp only [Crowd.run, Crowd.step, hProceed, pastEvents_program, reader]
  refine ⟨_, reader, hRun, by simp, rfl, ?_⟩
  rw [ending_find hInner, Shelf.read_set]

/-- By induction over the moves, all parties are always at a stage. -/
theorem orderly_of_run (hInner : IsDirect inner) {directory : Directory} {shelf : Shelf}
    {history : List Move} (h : Crowd.run cache inner ⟨directory, shelf, []⟩ history = some crowd) :
    Orderly cache inner crowd := by
  have hEmpty : Orderly cache inner ⟨directory, shelf, []⟩ := by
    rintro party ⟨⟩
  exact (run_induction hInner (fun _ => True) (fun _ => True) (fun _ _ _ _ _ _ _ => trivial) hEmpty
    trivial (fun _ _ => trivial) h).1

/-- Whatever has happened in a crowd, a domain whose key is deleted is forgotten, and the caller is
told so. After that, as long as the directory does not change its answer for the domain, every find
of it that starts then tells that answer, however the others go on, exactly if nobody had yet to
write another id when the key was deleted. -/
theorem finds_current_after_deletion_iff (hInner : IsDirect inner) {directory : Directory}
    {shelf : Shelf} {history : List Move}
    (hHistory : Crowd.run cache inner ⟨directory, shelf, []⟩ history = some crowd)
    (index : Nat) {party : Party} (hParty : crowd.parties[index]? = some party)
    (hOperation : party.operation = .invalidate domain)
    (hGoing : ∀ result, party.rest ≠ .done result) :
    ∃ after removed, crowd.step cache inner (.proceed index) = some after ∧
      after.parties[index]? = some ⟨.invalidate domain, .done (.forgotten (.ok removed))⟩ ∧
      ((∀ moves later place reader, (∀ answer, .change domain answer ∉ moves) →
          after.run cache inner moves = some later → after.parties.length ≤ place →
          later.parties[place]? = some reader → reader.operation = .find domain →
          later.ending reader = .finished (.found (told inner (after.directory domain)))) ↔
        ∀ writer ∈ crowd.parties, ∀ id, writer.Writes (cache.key domain) id →
          crowd.directory domain = .ok id) := by
  have hOrderly := orderly_of_run hInner hHistory
  obtain ⟨removed, hProceed⟩ := proceed_of_deleting hInner hOrderly hParty hOperation hGoing
  have hStep : crowd.step cache inner (.proceed index) = some _ := hProceed
  have hNext := (stepped_of_step hInner hOrderly hStep).orderly hOrderly
  refine ⟨_, removed, hProceed, ?_, fun hCurrent writer hWriter id hWrites => ?_,
    fun hWriters moves later place reader hMoves hRun hPlace hReader hFind => ?_⟩
  · have hIndex : index < crowd.parties.length := (List.getElem?_eq_some_iff.mp hParty).1
    exact List.getElem?_set_self hIndex
  · -- Let it write now and a find begin: the find tells what was written.
    obtain ⟨straggler, hStraggler⟩ := List.mem_iff_getElem?.mp hWriter
    have hOther : index ≠ straggler := by
      rintro rfl
      rw [hParty] at hStraggler
      cases hStraggler
      rw [eq_of_writes hInner (hOrderly party hWriter) hWrites] at hOperation
      cases hOperation
    rw [← List.getElem?_set_ne hOther] at hStraggler
    obtain ⟨later, reader, hRun, hReader, hFind, hEnding⟩ :=
      ending_after_straggler hInner hNext hStraggler hWrites
    rw [hCurrent _ later _ reader (by simp) hRun (Nat.le_refl _) hReader hFind] at hEnding
    injection hEnding with hResult
    injection hResult with hTold
    exact told_eq_ok_iff.mp hTold
  · rw [List.length_set] at hPlace
    obtain ⟨hLater, hSettled⟩ := run_induction hInner
      (Settled inner cache domain (crowd.directory domain) crowd.parties.length)
      (fun move => ∀ answer, move ≠ .change domain answer)
      (fun _ _ _ _ hKept hMove hStepped => hKept.step hInner hMove hStepped) hNext
      (settled_of_delete hWriters)
      (fun move hMove answer hChange => hMoves answer (hChange ▸ hMove)) hRun
    exact hSettled.ending hInner hLater hPlace hReader hFind

/-- A find is done before its tenant moves. -/
theorem finds_current_after_move :
    ∃ crowd after removed,
      Crowd.run fiveMinutes .directory ⟨fun _ => .ok "t1", ⟨⟨[]⟩, 0⟩, []⟩
        [.start (.find "acme"), .proceed 0, .proceed 0, .proceed 0, .change "acme" (.ok "t2"),
          .start (.invalidate "acme")] = some crowd ∧
      crowd.step fiveMinutes .directory (.proceed 1) = some after ∧
      after.parties[1]? = some ⟨.invalidate "acme", .done (.forgotten (.ok removed))⟩ ∧
      ∀ moves later place reader, (∀ answer, .change "acme" answer ∉ moves) →
        after.run fiveMinutes .directory moves = some later → after.parties.length ≤ place →
        later.parties[place]? = some reader → reader.operation = .find "acme" →
        later.ending reader = .finished (.found (told .directory (after.directory "acme"))) := by
  have hHistory : Crowd.run fiveMinutes .directory ⟨fun _ => .ok "t1", ⟨⟨[]⟩, 0⟩, []⟩
      [.start (.find "acme"), .proceed 0, .proceed 0, .proceed 0, .change "acme" (.ok "t2"),
        .start (.invalidate "acme")] = some ⟨_, _, [_, _]⟩ := rfl
  obtain ⟨after, removed, hStep, hForgotten, hIff⟩ :=
    finds_current_after_deletion_iff (.inl rfl) hHistory 1 rfl rfl (by rintro _ ⟨⟩)
  refine ⟨_, after, removed, hHistory, hStep, hForgotten, hIff.mpr ?_⟩
  intro writer hWriter id hWrites
  rcases List.mem_cons.mp hWriter with rfl | hWriter
  · exact (not_writes_done hWrites).elim
  · obtain rfl := List.mem_singleton.mp hWriter
    exact (not_writes_program hWrites).elim

/-- A find has the old id when its tenant moves, and writes it after the domain was forgotten. The
next find tells the old id. -/
theorem forgotten_id_told :
    ∃ changed crowd,
      Crowd.run fiveMinutes .directory ⟨fun _ => .ok "t1", ⟨⟨[]⟩, 0⟩, []⟩
        [.start (.find "acme"), .proceed 0, .proceed 0, .change "acme" (.ok "t2")] =
          some changed ∧
      changed.directory "acme" = .ok "t2" ∧
      changed.run fiveMinutes .directory
        [.start (.invalidate "acme"), .proceed 1, .proceed 0, .start (.find "acme"),
          .proceed 2] = some crowd ∧
      crowd.parties =
        [⟨.find "acme", .done (.found (.ok "t1"))⟩,
          ⟨.invalidate "acme", .done (.forgotten (.ok false))⟩,
          ⟨.find "acme", .done (.found (.ok "t1"))⟩] ∧
      crowd.directory "acme" = .ok "t2" :=
  ⟨_, _, rfl, rfl, rfl, rfl, rfl⟩

end Surroundings

end Gatehouse
