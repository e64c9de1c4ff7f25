import Gatehouse.Proofs.Execution
import Gatehouse.Proofs.Shelving

/-! How old a cached answer may be. Every entry of the cache was put there by a find that had the
directory's answer, is not there for longer than it was kept for, and has not been forgotten since,
whatever calls fail and however the directory changes. -/
namespace Gatehouse.Surroundings

open Tenant

/-! ## Calls -/

/-- From one shelf to another, time has not gone back, and what the cache keeps for these domains is
the same. -/
structure Keeps (cache : Cache) (domains : String → Prop) (before after : Shelf) : Prop where
  clock : before.clock ≤ after.clock
  entry : ∀ domain, domains domain →
    after.held? (cache.key domain) = before.held? (cache.key domain)

variable {σ : Type} {circumstances : Circumstances σ} {cache : Cache}

theorem Keeps.refl (domains : String → Prop) (shelf : Shelf) : Keeps cache domains shelf shelf :=
  ⟨Int.le_refl _, fun _ _ => rfl⟩

/-- What is kept at every step is kept along them. -/
theorem Keeps.trans {domains : String → Prop} {first second third : Shelf}
    (h : Keeps cache domains first second) (hNext : Keeps cache domains second third) :
    Keeps cache domains first third :=
  ⟨Int.le_trans h.clock hNext.clock,
    fun domain hDomain => (hNext.entry domain hDomain).trans (h.entry domain hDomain)⟩

theorem Keeps.mono {domains fewer : String → Prop} {before after : Shelf}
    (h : Keeps cache domains before after) (hFewer : ∀ domain, fewer domain → domains domain) :
    Keeps cache fewer before after :=
  ⟨h.clock, fun domain hDomain => h.entry domain (hFewer domain hDomain)⟩

/-- A command keeps what is under the other keys. -/
theorem keeps_perform {domains : String → Prop} (shelf : Shelf) {command : Store.Command}
    (h : ∀ domain, domains domain → cache.key domain ≠ command.key) :
    Keeps cache domains shelf (shelf.perform command).2 :=
  ⟨Int.le_refl _, fun domain hDomain => shelf.held?_perform_of_ne (h domain hDomain)⟩

/-- Others do no more than read under the keys of the cache. -/
def KeepOff (cache : Cache) (circumstances : Circumstances σ) : Prop :=
  ∀ state, ∀ command ∈ circumstances.commands state, ∀ domain,
    command.key = cache.key domain → command = .get (cache.key domain)

/-- Others do not write where the cache does. -/
theorem keeps_meanwhile {domains : String → Prop} {commands : List Store.Command}
    (h : ∀ command ∈ commands, ∀ domain,
      command.key = cache.key domain → command = .get (cache.key domain)) (shelf : Shelf) :
    Keeps cache domains shelf (shelf.meanwhile commands) := by
  induction commands generalizing shelf with
  | nil => exact .refl _ _
  | cons command rest ih =>
      have hFirst : Keeps cache domains shelf (shelf.perform command).2 := by
        refine ⟨Int.le_refl _, fun domain _ => ?_⟩
        by_cases hKey : command.key = cache.key domain
        · rw [h command (List.mem_cons_self ..) domain hKey, Shelf.perform_get]
        · exact shelf.held?_perform_of_ne (Ne.symm hKey)
      exact hFirst.trans (ih (fun other hOther => h other (List.mem_cons_of_mem _ hOther)) _)

/-- The shelf when a call is carried out. -/
def reached (circumstances : Circumstances σ) (call : Call) (state : σ × Shelf) : Shelf :=
  let next := (circumstances.answers call state.1).2
  (state.2.wait (circumstances.lag next)).meanwhile (circumstances.commands next)

/-- Nothing that happens on the way to a call touches the cache. -/
theorem keeps_reached (h : KeepOff cache circumstances) (domains : String → Prop) (call : Call)
    (state : σ × Shelf) : Keeps cache domains state.2 (reached circumstances call state) := by
  have hWait : Keeps cache domains state.2
      (state.2.wait (circumstances.lag (circumstances.answers call state.1).2)) := by
    refine ⟨?_, fun _ _ => rfl⟩
    simp only [Shelf.wait]
    omega
  exact hWait.trans (keeps_meanwhile (h _) _)

/-- A command that is not answered was carried out, or it was not. -/
theorem Shelf.missed_cases (shelf : Shelf) (lands : Bool) (call : Call) :
    shelf.missed lands call = shelf ∨
      ∃ command, Shelf.command? call = some command ∧
        shelf.missed lands call = (shelf.perform command).2 := by
  unfold Shelf.missed
  cases Shelf.command? call with
  | none => exact .inl rfl
  | some command =>
      cases lands with
      | false => exact .inl rfl
      | true => exact .inr ⟨command, rfl, rfl⟩

theorem Shelf.answer_cases (shelf : Shelf) (lands : Bool) (call : Call) (reply : call.Answer) :
    (shelf.answer lands call reply).2 = shelf ∨
      ∃ command, Shelf.command? call = some command ∧
        (shelf.answer lands call reply).2 = (shelf.perform command).2 := by
  unfold Shelf.answer
  split
  · exact .inr ⟨_, rfl, rfl⟩
  · exact .inr ⟨_, rfl, rfl⟩
  · exact .inr ⟨_, rfl, rfl⟩
  · exact shelf.missed_cases lands _

variable (circumstances) in
/-- A call does nothing to the shelf, or what its command does. -/
theorem shelf_of_call (call : Call) (state : σ × Shelf) :
    (shelved circumstances call state).2.2 = reached circumstances call state ∨
      ∃ command, Shelf.command? call = some command ∧
        (shelved circumstances call state).2.2 =
          ((reached circumstances call state).perform command).2 := by
  unfold shelved reached
  dsimp only
  split
  · exact Shelf.missed_cases _ _ call
  · exact Shelf.answer_cases _ _ call _

/-- An answer to a call, as the shelf has it. -/
theorem answer_of_call {call : Call} {state : σ × Shelf} {delay : Duration} {answer : call.Answer}
    (h : (shelved circumstances call state).1 = .after delay answer) :
    ∃ lands reply, (reached circumstances call state).answer lands call reply =
      (answer, (shelved circumstances call state).2.2) := by
  unfold shelved at h ⊢
  unfold reached
  dsimp only at h ⊢
  split at h
  · cases h
  · cases h
    exact ⟨_, _, rfl⟩

/-! ## Calls of a cached directory -/

/-- The directory has not answered for this domain. -/
def Unasked (domain : String) (trace : List Entry) : Prop :=
  ∀ answer, .answered (.lookup domain) answer ∉ trace

theorem Unasked.nil (domain : String) : Unasked domain [] := by
  simp [Unasked]

theorem Unasked.append {domain : String} {first second : List Entry} (h : Unasked domain first)
    (hNext : Unasked domain second) : Unasked domain (first ++ second) :=
  fun answer hMem => (List.mem_append.mp hMem).elim (h answer) (hNext answer)

/-- The directory has answered for this domain with this, and with nothing else. -/
def Answers (domain : String) (answer : Except LookupError String) (trace : List Entry) : Prop :=
  ∀ other, .answered (.lookup domain) other ∈ trace ↔ other = answer

/-- What was asked for before does not matter to the answer. -/
theorem Answers.behind {domain : String} {answer : Except LookupError String}
    {first second : List Entry} (h : Answers domain answer second) (hFirst : Unasked domain first) :
    Answers domain answer (first ++ second) := by
  intro other
  rw [List.mem_append, h other]
  exact or_iff_right (hFirst other)

theorem Answers.before {domain : String} {answer : Except LookupError String}
    {first second : List Entry} (h : Answers domain answer first)
    (hSecond : Unasked domain second) : Answers domain answer (first ++ second) := by
  intro other
  rw [List.mem_append, h other]
  exact or_iff_left (hSecond other)

variable {deadline : Option Duration} {domain : String}

/-- A call that writes nothing leaves the cache as it is. -/
theorem keeps_ask (hOff : KeepOff cache circumstances) {call : Call}
    (hCall : ∀ command, Shelf.command? call = some command → ∃ key, command = .get key)
    (domains : String → Prop) (state : σ × Shelf) :
    Keeps cache domains state.2 (shelved circumstances call state).2.2 := by
  have hReached := keeps_reached hOff domains call state
  rcases shelf_of_call circumstances call state with hSame | ⟨command, hCommand, hDone⟩
  · rwa [hSame]
  · obtain ⟨key, rfl⟩ := hCall command hCommand
    rwa [hDone, Shelf.perform_get]

/-- What is found is what the shelf has. -/
theorem Shelf.read_of_answer {shelf after : Shelf} {lands : Bool} {key : String}
    {reply : Except Store.Error (Option String)} {found : Option String}
    (h : shelf.answer lands (.readCache key) reply = (.ok found, after)) :
    after.data.read after.clock key = found := by
  cases reply with
  | error error => cases h
  | ok value =>
      have hFound : (shelf.perform (.get key)).1.readValue = .ok found := congrArg Prod.fst h
      have hAfter : (shelf.perform (.get key)).2 = after := congrArg Prod.snd h
      rw [readValue_get] at hFound
      rw [← hAfter, perform_get]
      exact Except.ok.inj hFound

variable (deadline domain) in
/-- What is read is what the cache keeps at that time. -/
theorem run_read (hOff : KeepOff cache circumstances) (scene : Scene (σ × Shelf)) :
    let outcome := (cache.read domain).run (shelved circumstances) deadline scene
    let shelf := outcome.scene.world.2
    Keeps cache (fun _ => True) scene.world.2 shelf ∧ Unasked domain outcome.trace ∧
      ∀ id, outcome.ending = .finished (some id) →
        shelf.data.read shelf.clock (cache.key domain) = some id := by
  have hKeeps : Keeps cache (fun _ => True) scene.world.2
      (shelved circumstances (.readCache (cache.key domain)) scene.world).2.2 :=
    keeps_ask hOff (by rintro command ⟨⟩; exact ⟨_, rfl⟩) _ _
  dsimp only
  rw [read_eq, Program.run_ask]
  cases hAsk : scene.ask (shelved circumstances) deadline (.readCache (cache.key domain)) with
  | error after =>
      rw [← Scene.world_of_ask_error hAsk] at hKeeps
      exact ⟨hKeeps, by simp [Unasked], nofun⟩
  | ok result =>
      obtain ⟨answer, after⟩ := result
      obtain ⟨delay, hReply⟩ := Scene.world_of_ask_ok hAsk
      obtain ⟨lands, reply, hAnswer⟩ := answer_of_call (congrArg Prod.fst hReply)
      rw [hReply] at hKeeps hAnswer
      cases answer with
      | error error => exact ⟨hKeeps, by simp [Unasked, Program.run], nofun⟩
      | ok found =>
          refine ⟨hKeeps, by simp [Unasked, Program.run], ?_⟩
          rintro id ⟨⟩
          exact Shelf.read_of_answer hAnswer

theorem run_logs {α : Type} (events : List Event) (value : α) (scene : Scene (σ × Shelf)) :
    (events.foldr Program.log (.done value)).run (shelved circumstances) deadline scene =
      ⟨.finished value, scene, events.map .logged⟩ := by
  induction events with
  | nil => rfl
  | cons event rest ih =>
      rw [List.foldr_cons, Program.run, ih]
      rfl

theorem unasked_events (domain : String) (events : List Event) :
    Unasked domain (events.map .logged) := by
  intro answer hMem
  simp at hMem

variable (deadline domain) in
/-- The directory is asked once, and what it answers is told. -/
theorem run_inner (hOff : KeepOff cache circumstances) {inner : Dispatcher}
    (hInner : IsDirect inner) (scene : Scene (σ × Shelf)) :
    let outcome := (inner.find domain).run (shelved circumstances) deadline scene
    Keeps cache (fun _ => True) scene.world.2 outcome.scene.world.2 ∧
      ((∃ holds, outcome.ending = .dropped holds ∧ Unasked domain outcome.trace) ∨
        ∃ answer, outcome.ending = .finished (told inner answer) ∧
          Answers domain answer outcome.trace) := by
  have hKeeps : Keeps cache (fun _ => True) scene.world.2
      (shelved circumstances (.lookup domain) scene.world).2.2 :=
    keeps_ask hOff (by rintro command ⟨⟩) _ _
  obtain ⟨events, hFind⟩ := find_eq_of_isDirect hInner domain
  dsimp only
  rw [hFind, Program.run_ask]
  cases hAsk : scene.ask (shelved circumstances) deadline (.lookup domain) with
  | error after =>
      rw [← Scene.world_of_ask_error hAsk] at hKeeps
      exact ⟨hKeeps, .inl ⟨[], rfl, by simp [Unasked]⟩⟩
  | ok result =>
      obtain ⟨answer, after⟩ := result
      obtain ⟨delay, hReply⟩ := Scene.world_of_ask_ok hAsk
      rw [hReply] at hKeeps
      dsimp only
      rw [run_logs]
      have hAnswered : Answers domain answer [.answered (.lookup domain) answer] := by
        intro other
        simp
      exact ⟨hKeeps, .inr ⟨answer, rfl, hAnswered.before (unasked_events domain _)⟩⟩

/-- A call whose command is about one domain leaves the other domains as they are, and its own too,
or as the command leaves it. -/
theorem keeps_others (hOff : KeepOff cache circumstances) (domain : String) (call : Call)
    {command : Store.Command} (hCommand : Shelf.command? call = some command)
    (hKey : command.key = cache.key domain) (state : σ × Shelf) :
    let shelf := (shelved circumstances call state).2.2
    Keeps cache (· ≠ domain) state.2 shelf ∧
      (shelf.held? (cache.key domain) = state.2.held? (cache.key domain) ∨
        ∃ earlier : Shelf, shelf = (earlier.perform command).2) := by
  have hReached := keeps_reached hOff (fun _ => True) call state
  have hOthers : Keeps cache (· ≠ domain) _ _ := hReached.mono fun _ _ => trivial
  dsimp only
  rcases shelf_of_call circumstances call state with hSame | ⟨other, hOther, hDone⟩
  · rw [hSame]
    exact ⟨hOthers, .inl (hReached.entry domain trivial)⟩
  · cases hCommand.symm.trans hOther
    rw [hDone]
    refine ⟨hOthers.trans (keeps_perform _ fun name hName hSame => ?_), .inr ⟨_, rfl⟩⟩
    exact hName (key_injective cache (hSame.trans hKey))

/-- A write leaves the other domains as they are, and its own too or with the new id for its
time. -/
theorem keeps_write (hOff : KeepOff cache circumstances) (domain id : String)
    (state : σ × Shelf) :
    let shelf := (shelved circumstances (.writeCache (cache.key domain) id cache.ttl) state).2.2
    Keeps cache (· ≠ domain) state.2 shelf ∧
      (shelf.held? (cache.key domain) = state.2.held? (cache.key domain) ∨
        shelf.held? (cache.key domain) =
          some ⟨.text id, some (shelf.clock + cache.ttl.secondsAtLeastOne * 1000000)⟩) := by
  obtain ⟨hOthers, hSame | ⟨earlier, hDone⟩⟩ :=
    keeps_others hOff domain (.writeCache (cache.key domain) id cache.ttl) rfl rfl state
  · exact ⟨hOthers, .inl hSame⟩
  · refine ⟨hOthers, .inr ?_⟩
    rw [hDone, Shelf.held?_set, Shelf.perform_clock]

variable (deadline domain) in
/-- What is written is kept from now on for its time, or nothing is written. -/
theorem run_write (hOff : KeepOff cache circumstances) (id : String)
    (scene : Scene (σ × Shelf)) :
    let outcome := (cache.write domain id).run (shelved circumstances) deadline scene
    let shelf := outcome.scene.world.2
    Keeps cache (· ≠ domain) scene.world.2 shelf ∧ Unasked domain outcome.trace ∧
      (shelf.held? (cache.key domain) = scene.world.2.held? (cache.key domain) ∨
        shelf.held? (cache.key domain) =
          some ⟨.text id, some (shelf.clock + cache.ttl.secondsAtLeastOne * 1000000)⟩) := by
  have hWrite := keeps_write hOff domain id scene.world
  dsimp only at hWrite ⊢
  rw [write_eq, Program.run_ask]
  cases hAsk : scene.ask (shelved circumstances) deadline
      (.writeCache (cache.key domain) id cache.ttl) with
  | error after =>
      rw [← Scene.world_of_ask_error hAsk] at hWrite
      exact ⟨hWrite.1, by simp [Unasked], hWrite.2⟩
  | ok result =>
      obtain ⟨answer, after⟩ := result
      obtain ⟨delay, hReply⟩ := Scene.world_of_ask_ok hAsk
      rw [hReply] at hWrite
      cases answer with
      | error error => exact ⟨hWrite.1, by simp [Unasked, Program.run], hWrite.2⟩
      | ok value => exact ⟨hWrite.1, by simp [Unasked, Program.run], hWrite.2⟩

/-- A deletion leaves the other domains as they are, and its own too or without an entry. -/
theorem keeps_delete (hOff : KeepOff cache circumstances) (domain : String)
    (state : σ × Shelf) :
    let shelf := (shelved circumstances (.deleteCache (cache.key domain)) state).2.2
    Keeps cache (· ≠ domain) state.2 shelf ∧
      (shelf.held? (cache.key domain) = state.2.held? (cache.key domain) ∨
        shelf.held? (cache.key domain) = none) := by
  obtain ⟨hOthers, hSame | ⟨earlier, hDone⟩⟩ :=
    keeps_others hOff domain (.deleteCache (cache.key domain)) rfl rfl state
  · exact ⟨hOthers, .inl hSame⟩
  · refine ⟨hOthers, .inr ?_⟩
    rw [hDone, Shelf.held?_delete]

/-- After a deletion that succeeded nothing is held. -/
theorem Shelf.held?_of_answer {shelf after : Shelf} {lands : Bool} {key : String}
    {reply : Except Store.Error Nat} {removed : Nat}
    (h : shelf.answer lands (.deleteCache key) reply = (.ok removed, after)) :
    after.held? key = none := by
  cases reply with
  | error error => cases h
  | ok value =>
      have hAfter : (shelf.perform (.delete key)).2 = after := congrArg Prod.snd h
      rw [← hAfter, held?_delete]

variable (deadline domain) in
/-- What was forgotten is not kept any more. -/
theorem run_invalidate (hOff : KeepOff cache circumstances) (scene : Scene (σ × Shelf)) :
    let outcome := (cache.invalidate domain).run (shelved circumstances) deadline scene
    let shelf := outcome.scene.world.2
    Keeps cache (· ≠ domain) scene.world.2 shelf ∧
      (shelf.held? (cache.key domain) = scene.world.2.held? (cache.key domain) ∨
        shelf.held? (cache.key domain) = none) ∧
      ∀ removed, outcome.ending = .finished (.ok removed) →
        shelf.held? (cache.key domain) = none := by
  have hDelete := keeps_delete hOff domain scene.world
  dsimp only at hDelete ⊢
  rw [invalidate_eq, Program.run_ask]
  cases hAsk : scene.ask (shelved circumstances) deadline (.deleteCache (cache.key domain)) with
  | error after =>
      rw [← Scene.world_of_ask_error hAsk] at hDelete
      exact ⟨hDelete.1, hDelete.2, nofun⟩
  | ok result =>
      obtain ⟨answer, after⟩ := result
      obtain ⟨delay, hReply⟩ := Scene.world_of_ask_ok hAsk
      obtain ⟨lands, reply, hAnswer⟩ := answer_of_call (congrArg Prod.fst hReply)
      rw [hReply] at hDelete hAnswer
      cases answer with
      | error error => exact ⟨hDelete.1, hDelete.2, nofun⟩
      | ok removed => exact ⟨hDelete.1, hDelete.2, fun _ _ => Shelf.held?_of_answer hAnswer⟩

/-! ## Finding -/

/-- All the ways in which a find can go, with what they do to the cache. -/
inductive Finding (cache : Cache) (inner : Dispatcher) (domain : String) (before after : Shelf) :
    Ending (Except LookupError String) → List Entry → Prop
  | brokenOff (holds : List Hold) (trace : List Entry) (hUnasked : Unasked domain trace)
      (hKeeps : Keeps cache (fun _ => True) before after) :
      Finding cache inner domain before after (.dropped holds) trace
  | cached (id : String) (trace : List Entry) (hUnasked : Unasked domain trace)
      (hKeeps : Keeps cache (fun _ => True) before after)
      (hRead : after.data.read after.clock (cache.key domain) = some id) :
      Finding cache inner domain before after (.finished (.ok id)) trace
  | failed (error shown : LookupError) (hShown : told inner (.error error) = .error shown)
      (trace : List Entry) (hAnswers : Answers domain (.error error) trace)
      (hKeeps : Keeps cache (fun _ => True) before after) :
      Finding cache inner domain before after (.finished (.error shown)) trace
  | asked (id : String) (ending : Ending (Except LookupError String))
      (hEnding : ∀ result, ending = .finished result → result = .ok id) (trace : List Entry)
      (hAnswers : Answers domain (.ok id) trace) (hKeeps : Keeps cache (· ≠ domain) before after)
      (hEntry : after.held? (cache.key domain) = before.held? (cache.key domain) ∨
        after.held? (cache.key domain) =
          some ⟨.text id, some (after.clock + cache.ttl.secondsAtLeastOne * 1000000)⟩) :
      Finding cache inner domain before after ending trace

variable {inner : Dispatcher} {before after : Shelf}
  {ending : Ending (Except LookupError String)} {trace : List Entry}

/-- What only reads may come before a find. -/
theorem Finding.behind {first : Shelf} {earlier : List Entry}
    (h : Finding cache inner domain before after ending trace)
    (hFirst : Keeps cache (fun _ => True) first before) (hEarlier : Unasked domain earlier) :
    Finding cache inner domain first after ending (earlier ++ trace) := by
  cases h with
  | brokenOff holds _ hUnasked hKeeps =>
      exact .brokenOff holds _ (hEarlier.append hUnasked) (hFirst.trans hKeeps)
  | cached id _ hUnasked hKeeps hRead =>
      exact .cached id _ (hEarlier.append hUnasked) (hFirst.trans hKeeps) hRead
  | failed error shown hShown _ hAnswers hKeeps =>
      exact .failed error shown hShown _ (hAnswers.behind hEarlier) (hFirst.trans hKeeps)
  | asked id _ hEnding _ hAnswers hKeeps hEntry =>
      rw [hFirst.entry domain trivial] at hEntry
      exact .asked id _ hEnding _ (hAnswers.behind hEarlier)
        ((hFirst.mono fun _ _ => trivial).trans hKeeps) hEntry

/-- An id comes from the directory, or else it was on the shelf. -/
theorem Finding.of_ok {id : String}
    (h : Finding cache inner domain before after ending trace)
    (hEnding : ending = .finished (.ok id)) :
    Answers domain (.ok id) trace ∨ Keeps cache (fun _ => True) before after ∧
      after.data.read after.clock (cache.key domain) = some id := by
  cases h with
  | brokenOff holds _ _ _ => cases hEnding
  | cached found _ _ hKeeps hRead =>
      cases hEnding
      exact .inr ⟨hKeeps, hRead⟩
  | failed error shown _ _ _ _ => cases hEnding
  | asked found _ hFinished _ hAnswers _ _ =>
      cases hFinished _ hEnding
      exact .inl hAnswers

/-- An error comes from the directory in any case. -/
theorem Finding.of_error {shown : LookupError}
    (h : Finding cache inner domain before after ending trace)
    (hEnding : ending = .finished (.error shown)) :
    ∃ error, .answered (.lookup domain) (.error error) ∈ trace ∧
      told inner (.error error) = .error shown := by
  cases h with
  | brokenOff holds _ _ _ => cases hEnding
  | cached found _ _ _ _ => cases hEnding
  | failed error shown hShown _ hAnswers _ =>
      cases hEnding
      exact ⟨error, (hAnswers _).mpr rfl, hShown⟩
  | asked found _ hFinished _ _ _ _ => cases hFinished _ hEnding

/-- The answer of the directory is what a find tells. -/
theorem Finding.eq_told {answer result : Except LookupError String}
    (h : Finding cache inner domain before after ending trace)
    (hMem : .answered (.lookup domain) answer ∈ trace) (hEnding : ending = .finished result) :
    result = told inner answer := by
  cases h with
  | brokenOff holds _ _ _ => cases hEnding
  | cached found _ hUnasked _ _ => exact (hUnasked answer hMem).elim
  | failed error shown hShown _ hAnswers _ =>
      cases hEnding
      rw [(hAnswers answer).mp hMem, hShown]
  | asked found _ hFinished _ hAnswers _ _ =>
      rw [(hAnswers answer).mp hMem, hFinished result hEnding]
      exact (told_eq_ok_iff.mpr rfl).symm

/-- An error is not cached, and what is cached stays. -/
theorem Finding.keeps_of_error {error : LookupError}
    (h : Finding cache inner domain before after ending trace)
    (hMem : .answered (.lookup domain) (.error error) ∈ trace) :
    Keeps cache (fun _ => True) before after := by
  cases h with
  | brokenOff holds _ _ hKeeps => exact hKeeps
  | cached found _ _ hKeeps _ => exact hKeeps
  | failed other shown _ _ _ hKeeps => exact hKeeps
  | asked found _ _ _ hAnswers _ _ => cases (hAnswers _).mp hMem

variable (deadline) in
/-- What a find does once it has missed the cache. -/
theorem run_findMissed (hOff : KeepOff cache circumstances) (hInner : IsDirect inner)
    (domain : String) (scene : Scene (σ × Shelf)) :
    let outcome := (findMissed cache inner domain).run (shelved circumstances) deadline scene
    Finding cache inner domain scene.world.2 outcome.scene.world.2 outcome.ending
      outcome.trace := by
  obtain ⟨hAsking, hAsked⟩ := run_inner deadline domain hOff hInner scene
  dsimp only at hAsking hAsked ⊢
  rw [findMissed, Program.run_bind]
  generalize (inner.find domain).run (shelved circumstances) deadline scene = asking
    at hAsking hAsked ⊢
  rcases hAsked with ⟨holds, hDropped, hUnasked⟩ | ⟨answer, hTold, hAnswers⟩
  · rw [Outcome.andThen_of_dropped hDropped]
    exact .brokenOff holds _ hUnasked hAsking
  · rw [Outcome.andThen_of_finished hTold]
    cases answer with
    | error error =>
        obtain ⟨shown, hShown⟩ := exists_told_error inner error
        rw [hShown]
        exact .failed error shown hShown _ (hAnswers.before (.nil domain)) hAsking
    | ok id =>
        obtain ⟨hWriting, hUnasked, hEntry⟩ := run_write deadline domain hOff id asking.scene
        rw [told_eq_ok_iff.mpr rfl, Program.run_bind]
        generalize (cache.write domain id).run (shelved circumstances) deadline asking.scene =
          writing at hWriting hUnasked hEntry ⊢
        rw [hAsking.entry domain trivial] at hEntry
        have hKept := (hAsking.mono fun _ _ => trivial).trans hWriting
        cases hEnding : writing.ending with
        | dropped holds =>
            rw [Outcome.andThen_of_dropped hEnding]
            exact .asked id _ (by rintro _ ⟨⟩) _ (hAnswers.before hUnasked) hKept hEntry
        | finished value =>
            rw [Outcome.andThen_of_finished hEnding]
            refine .asked id _ ?_ _ (hAnswers.before (hUnasked.append (.nil domain))) hKept hEntry
            rintro result ⟨⟩
            rfl

variable (deadline) in
/-- What a find does, with each way that it can end. -/
theorem run_find (hOff : KeepOff cache circumstances) (hInner : IsDirect inner)
    (domain : String) (scene : Scene (σ × Shelf)) :
    let outcome := ((Dispatcher.cached cache inner).find domain).run (shelved circumstances)
      deadline scene
    Finding cache inner domain scene.world.2 outcome.scene.world.2 outcome.ending
      outcome.trace := by
  obtain ⟨hKeeps, hUnread, hRead⟩ := run_read deadline domain hOff scene
  dsimp only at hKeeps hUnread hRead ⊢
  rw [find_eq, Program.run_bind]
  generalize (cache.read domain).run (shelved circumstances) deadline scene = reading
    at hKeeps hUnread hRead ⊢
  cases hReading : reading.ending with
  | dropped holds =>
      rw [Outcome.andThen_of_dropped hReading]
      exact .brokenOff holds _ hUnread hKeeps
  | finished found =>
      rw [Outcome.andThen_of_finished hReading]
      cases found with
      | some id =>
          exact .cached id _ (hUnread.append (.nil domain)) hKeeps (hRead id hReading)
      | none =>
          exact (run_findMissed deadline hOff hInner domain reading.scene).behind hKeeps hUnread

/-! ## Histories -/

/-- The id was given by the directory to a find of the domain, after which the domain was not
forgotten, and the expiry is no later than the time to live allows from the end of that find on. -/
def Origin (cache : Cache) (history : List (Episode σ)) (domain id : String) (expiry : Int) :
    Prop :=
  ∃ earlier source between, history = earlier ++ source :: between ∧ source.Gave domain id ∧
    expiry ≤ source.ended + cache.ttl.secondsAtLeastOne * 1000000 ∧
    ∀ other ∈ between, ¬ other.Forgot domain

/-- Whatever the cache keeps has its origin in the history. -/
def Backed (cache : Cache) (history : List (Episode σ)) (shelf : Shelf) : Prop :=
  ∀ domain entry, shelf.held? (cache.key domain) = some entry →
    ∃ id expiry, entry = ⟨.text id, some expiry⟩ ∧ Origin cache history domain id expiry

/-- Where an entry comes from does not change as long as its domain is not forgotten. -/
theorem Origin.extend {history : List (Episode σ)} {domain id : String} {expiry : Int}
    (h : Origin cache history domain id expiry) {episode : Episode σ}
    (hEpisode : ¬ episode.Forgot domain) :
    Origin cache (history ++ [episode]) domain id expiry := by
  obtain ⟨earlier, source, between, rfl, hGave, hExpiry, hBetween⟩ := h
  refine ⟨earlier, source, between ++ [episode], by simp, hGave, hExpiry, ?_⟩
  intro other hOther
  rcases List.mem_append.mp hOther with hMem | hMem
  · exact hBetween other hMem
  · rwa [List.mem_singleton.mp hMem]

/-- What is kept as it was before an episode keeps its origin. -/
theorem Backed.extend {history : List (Episode σ)} {shelf : Shelf}
    (h : Backed cache history shelf) {episode : Episode σ} {domain : String}
    (hForgot : ¬ episode.Forgot domain) {entry : Store.Entry (Store.Stored Float)}
    (hEntry : shelf.held? (cache.key domain) = some entry) :
    ∃ id expiry, entry = ⟨.text id, some expiry⟩ ∧
      Origin cache (history ++ [episode]) domain id expiry := by
  obtain ⟨id, expiry, rfl, hOrigin⟩ := h domain entry hEntry
  exact ⟨id, expiry, rfl, hOrigin.extend hForgot⟩

/-- What is read from what was backed has its origin, and its time is not over. -/
theorem Backed.of_read {history : List (Episode σ)}
    (h : Backed cache history before) (hKeeps : Keeps cache (fun _ => True) before after)
    {id : String} (hRead : after.data.read after.clock (cache.key domain) = some id) :
    ∃ expiry, Origin cache history domain id expiry ∧ after.clock < expiry := by
  obtain ⟨time, hEntry, hLive⟩ := Shelf.held?_of_read hRead
  rw [hKeeps.entry domain trivial] at hEntry
  obtain ⟨other, expiry, hSame, hOrigin⟩ := h domain _ hEntry
  cases hSame
  exact ⟨expiry, hOrigin, hLive expiry rfl⟩

variable (deadline) in
/-- How a find of a history goes. -/
theorem finding_of_episode (hOff : KeepOff cache circumstances) (hInner : IsDirect inner)
    (domain : String) (state : σ × Shelf) :
    let episode := (Operation.find domain).episode circumstances deadline cache inner state
    ∃ ending, episode.outcome.ending = ending.map .found ∧
      Finding cache inner domain state.2 episode.shelf ending episode.outcome.trace := by
  have hFinding := run_find deadline hOff hInner domain (.fresh state)
  dsimp only [Operation.episode, Operation.program, Episode.shelf]
  rw [Program.run_map]
  exact ⟨_, rfl, hFinding⟩

theorem not_forgot_of_find {domain name : String} {state : σ × Shelf} :
    ¬ ((Operation.find domain).episode circumstances deadline cache inner state).Forgot name := by
  rintro ⟨hOperation, -⟩
  cases hOperation

/-- A find keeps everything backed. Only what the directory gave to it is new. -/
theorem backed_find (hOff : KeepOff cache circumstances) (hInner : IsDirect inner)
    {history : List (Episode σ)} {state : σ × Shelf} (hBacked : Backed cache history state.2)
    (domain : String) :
    let episode := (Operation.find domain).episode circumstances deadline cache inner state
    Backed cache (history ++ [episode]) episode.shelf := by
  obtain ⟨ending, -, hFinding⟩ := finding_of_episode deadline hOff hInner domain state
  intro episode name entry hEntry
  have hSame (h : episode.shelf.held? (cache.key name) = state.2.held? (cache.key name)) :=
    hBacked.extend (not_forgot_of_find : ¬ episode.Forgot name) (h ▸ hEntry)
  cases hFinding with
  | brokenOff holds _ _ hKeeps => exact hSame (hKeeps.entry name trivial)
  | cached id _ _ hKeeps _ => exact hSame (hKeeps.entry name trivial)
  | failed error shown _ _ _ hKeeps => exact hSame (hKeeps.entry name trivial)
  | asked id _ _ _ hAnswers hKeeps hWritten =>
      by_cases hName : name = domain
      · subst hName
        rcases hWritten with hUnchanged | hNew
        · exact hSame hUnchanged
        · rw [hNew] at hEntry
          cases hEntry
          exact ⟨id, _, rfl, history, episode, [], rfl, ⟨rfl, (hAnswers _).mpr rfl⟩,
            Int.le_refl _, by simp⟩
      · exact hSame (hKeeps.entry name hName)

variable (deadline inner) in
/-- How a domain is forgotten in a history. -/
theorem forgetting_of_episode (hOff : KeepOff cache circumstances) (domain : String)
    (state : σ × Shelf) :
    let episode := (Operation.invalidate domain).episode circumstances deadline cache inner state
    Keeps cache (· ≠ domain) state.2 episode.shelf ∧
      (episode.shelf.held? (cache.key domain) = state.2.held? (cache.key domain) ∨
        episode.shelf.held? (cache.key domain) = none) ∧
      (episode.Forgot domain → episode.shelf.held? (cache.key domain) = none) := by
  obtain ⟨hOthers, hOwn, hGone⟩ := run_invalidate deadline domain hOff (.fresh state)
  dsimp only [Operation.episode, Operation.program, Episode.shelf, Episode.Forgot]
  rw [Program.run_map]
  refine ⟨hOthers, hOwn, ?_⟩
  rintro ⟨-, removed, hEnding⟩
  obtain ⟨answer, hAnswer, hResult⟩ := Ending.finished_of_map hEnding
  cases hResult
  exact hGone removed hAnswer

/-- Forgetting keeps everything backed. What is still there was not forgotten. -/
theorem backed_invalidate (hOff : KeepOff cache circumstances) {history : List (Episode σ)}
    {state : σ × Shelf} (hBacked : Backed cache history state.2) (domain : String) :
    let episode := (Operation.invalidate domain).episode circumstances deadline cache inner state
    Backed cache (history ++ [episode]) episode.shelf := by
  obtain ⟨hOthers, hOwn, hGone⟩ := forgetting_of_episode deadline inner hOff domain state
  intro episode name entry hEntry
  by_cases hName : name = domain
  · subst hName
    have hForgot : ¬ episode.Forgot name := by
      intro h
      rw [hGone h] at hEntry
      cases hEntry
    rcases hOwn with hUnchanged | hNone
    · exact hBacked.extend hForgot (hUnchanged ▸ hEntry)
    · rw [hNone] at hEntry
      cases hEntry
  · have hForgot : ¬ episode.Forgot name := by
      rintro ⟨hOperation, -⟩
      cases hOperation
      exact hName rfl
    exact hBacked.extend hForgot ((hOthers.entry name hName) ▸ hEntry)

/-- After every episode each entry on the shelf comes from an answer of the directory. -/
theorem backed_episode (hOff : KeepOff cache circumstances) (hInner : IsDirect inner)
    {history : List (Episode σ)} {state : σ × Shelf} (hBacked : Backed cache history state.2)
    (operation : Operation) :
    let episode := operation.episode circumstances deadline cache inner state
    Backed cache (history ++ [episode]) episode.shelf := by
  cases operation with
  | find domain => exact backed_find hOff hInner hBacked domain
  | invalidate domain => exact backed_invalidate hOff hBacked domain

/-- Every episode of a history is one that begins with everything backed by what came before. -/
theorem backed_of_operate (hOff : KeepOff cache circumstances) (hInner : IsDirect inner)
    {history earlier later : List (Episode σ)} {episode : Episode σ}
    {operations : List Operation} {state : σ × Shelf} (hBacked : Backed cache history state.2)
    (h : operate circumstances deadline cache inner operations state =
      earlier ++ episode :: later) :
    episode = episode.operation.episode circumstances deadline cache inner episode.before ∧
      Backed cache (history ++ earlier) episode.before.2 := by
  -- Along the history, with all that came before as the history of the rest.
  induction earlier generalizing history operations state with
  | nil =>
      cases operations with
      | nil => cases h
      | cons operation rest =>
          cases h
          rw [List.append_nil]
          exact ⟨rfl, hBacked⟩
  | cons first between ih =>
      cases operations with
      | nil => cases h
      | cons operation rest =>
          obtain ⟨rfl, hRest⟩ := List.cons.inj h
          have hNext := ih (backed_episode hOff hInner hBacked operation) hRest
          rwa [List.append_assoc] at hNext

/-- When finds and invalidations are done one after the other, with any failures of the cache and
any changes of the directory, a find that answers with an id has it from the directory, or from an
earlier find of the same domain that had it from the directory, is not older than what is cached may
be, and has not been followed by an invalidation of the domain. The age is counted from the end of
the earlier find, when the directory had answered and the id was written, to the end of this one. A
find that answers with an error has it from the directory. What the directory answers is what the
find answers, and an error is not cached. A find that is not broken off answers, whatever the cache
does. -/
theorem answers_not_stale (hOff : KeepOff cache circumstances) (hInner : IsDirect inner)
    {operations : List Operation} {start : σ × Shelf}
    (hStart : ∀ name, start.2.held? (cache.key name) = none)
    {earlier later : List (Episode σ)} {episode : Episode σ}
    (hHistory : operate circumstances deadline cache inner operations start =
      earlier ++ episode :: later) (hFind : episode.operation = .find domain) :
    (∀ id, episode.outcome.ending = .finished (.found (.ok id)) →
      episode.Gave domain id ∨
        ∃ first source between, earlier = first ++ source :: between ∧ source.Gave domain id ∧
          episode.ended < source.ended + cache.ttl.secondsAtLeastOne * 1000000 ∧
          ∀ other ∈ between, ¬ other.Forgot domain) ∧
    (∀ shown, episode.outcome.ending = .finished (.found (.error shown)) →
      ∃ error, .answered (.lookup domain) (.error error) ∈ episode.outcome.trace ∧
        told inner (.error error) = .error shown) ∧
    (∀ answer result, .answered (.lookup domain) answer ∈ episode.outcome.trace →
      episode.outcome.ending = .finished (.found result) → result = told inner answer) ∧
    (∀ error, .answered (.lookup domain) (.error error) ∈ episode.outcome.trace →
      ∀ name, episode.shelf.held? (cache.key name) = episode.before.2.held? (cache.key name)) ∧
    ((∀ call, .dropped call ∉ episode.outcome.trace) →
      ∃ answer, episode.outcome.ending = .finished (.found answer)) := by
  have hNothing : Backed cache ([] : List (Episode σ)) start.2 := by
    intro name entry hEntry
    rw [hStart] at hEntry
    cases hEntry
  obtain ⟨hEpisode, hBacked⟩ := backed_of_operate hOff hInner hNothing hHistory
  rw [hFind] at hEpisode
  obtain ⟨ending, hEnding, hFinding⟩ :=
    finding_of_episode deadline hOff hInner domain episode.before
  rw [← hEpisode] at hEnding hFinding
  have hAnswer (answer : Except LookupError String) :
      episode.outcome.ending = .finished (.found answer) ↔ ending = .finished answer := by
    rw [hEnding]
    cases ending <;> simp [Ending.map]
  refine ⟨fun id hId => ?_, fun shown hError => ?_, fun answer result hMem hResult => ?_,
    fun error hMem => ?_, fun hStays => ?_⟩
  · rw [hAnswer] at hId
    rcases hFinding.of_ok hId with hAnswered | ⟨hKeeps, hRead⟩
    · exact .inl ⟨hFind, (hAnswered _).mpr rfl⟩
    · obtain ⟨expiry, ⟨first, source, between, rfl, hGave, hExpiry, hBetween⟩, hLive⟩ :=
        hBacked.of_read hKeeps hRead
      exact .inr ⟨first, source, between, rfl, hGave, Int.lt_of_lt_of_le hLive hExpiry, hBetween⟩
  · rw [hAnswer] at hError
    exact hFinding.of_error hError
  · rw [hAnswer] at hResult
    exact hFinding.eq_told hMem hResult
  · exact fun name => (hFinding.keeps_of_error hMem).entry name trivial
  · obtain ⟨result, hFinished⟩ : ∃ result, episode.outcome.ending = .finished result := by
      rw [hEpisode] at hStays ⊢
      exact Program.exists_finished_of_run hStays
    rw [hEnding] at hFinished ⊢
    obtain ⟨answer, rfl, -⟩ := Ending.finished_of_map hFinished
    exact ⟨answer, rfl⟩

/-- A tenant moves after two calls, each of which takes a second, while others count their
visits. -/
def moving : Circumstances Nat where
  answers
    | .lookup _, calls => (some (.ok (if calls < 2 then "t1" else "t2")), calls + 1)
    | .readCache _, calls => (some (.ok none), calls + 1)
    | .writeCache _ _ _, calls => (some (.ok ()), calls + 1)
    | .deleteCache _, calls => (some (.ok 0), calls + 1)
    | _, calls => (none, calls)
  lag _ := 1000000
  commands calls := [.set "visits" (toString calls) 60]
  lands _ := false

theorem keepOff_moving : KeepOff fiveMinutes moving := by
  rintro calls command hMem domain hKey
  obtain rfl : command = .set "visits" (toString calls) 60 := List.mem_singleton.mp hMem
  have hChars := congrArg String.toList hKey
  simp [Store.Command.key, Cache.key, fiveMinutes, Cache.defaultSpace, toString] at hChars

/-- The old id is found once more, and not after it was forgotten. -/
theorem answers_of_moving_not_stale :
    ∃ first second third fourth,
      operate moving none fiveMinutes .directory
        [.find "acme", .find "acme", .invalidate "acme", .find "acme"] (0, ⟨⟨[]⟩, 0⟩) =
          [first, second, third, fourth] ∧
      first.Gave "acme" "t1" ∧ second.outcome.ending = .finished (.found (.ok "t1")) ∧
      third.Forgot "acme" ∧ fourth.outcome.ending = .finished (.found (.ok "t2")) ∧
      (fourth.Gave "acme" "t2" ∨
        ∃ earlier source between, [first, second, third] = earlier ++ source :: between ∧
          source.Gave "acme" "t2" ∧ fourth.ended < source.ended + 300 * 1000000 ∧
          ∀ other ∈ between, ¬ other.Forgot "acme") := by
  refine ⟨_, _, _, _, rfl, ⟨rfl, .tail _ (.head _)⟩, rfl, ⟨rfl, true, rfl⟩, rfl, ?_⟩
  have hHistory : operate moving none fiveMinutes .directory
      [.find "acme", .find "acme", .invalidate "acme", .find "acme"] (0, ⟨⟨[]⟩, 0⟩) =
        [_, _, _] ++ _ :: [] := rfl
  obtain ⟨hFresh, -⟩ := answers_not_stale keepOff_moving (.inl rfl) (fun _ => rfl) hHistory rfl
  exact hFresh "t2" rfl

end Gatehouse.Surroundings
