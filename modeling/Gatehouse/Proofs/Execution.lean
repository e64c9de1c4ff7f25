import Gatehouse.Run

/-! Laws of runs. A program in sequence runs in sequence, what a program may call, hold and do to
the handle bounds what can be seen of each of its runs, and what every call keeps of the
surroundings a run keeps. -/
namespace Gatehouse

variable {σ α β : Type} {world : World σ} {deadline : Option Duration}

/-! ## Traces -/

@[simp] theorem callsOf_nil : callsOf [] = [] := rfl

@[simp] theorem callsOf_append (first second : List Entry) :
    callsOf (first ++ second) = callsOf first ++ callsOf second :=
  List.filterMap_append

@[simp] theorem callsOf_answered (call : Call) (answer : call.Answer) (rest : List Entry) :
    callsOf (.answered call answer :: rest) = call :: callsOf rest := rfl

@[simp] theorem callsOf_dropped (call : Call) (rest : List Entry) :
    callsOf (.dropped call :: rest) = call :: callsOf rest := rfl

@[simp] theorem callsOf_logged (event : Event) (rest : List Entry) :
    callsOf (.logged event :: rest) = callsOf rest := rfl

@[simp] theorem callsOf_events (events : List Event) : callsOf (events.map .logged) = [] := by
  induction events with
  | nil => rfl
  | cons event rest ih => exact ih

theorem mem_callsOf_of_answered {call : Call} {answer : call.Answer} {trace : List Entry}
    (h : .answered call answer ∈ trace) : call ∈ callsOf trace :=
  List.mem_filterMap.mpr ⟨_, h, rfl⟩

theorem mem_callsOf_of_dropped {call : Call} {trace : List Entry}
    (h : .dropped call ∈ trace) : call ∈ callsOf trace :=
  List.mem_filterMap.mpr ⟨_, h, rfl⟩

/-- Where nothing was cut off, every call was answered. -/
theorem exists_answered_of_mem_callsOf {call : Call} {trace : List Entry}
    (h : call ∈ callsOf trace) (hInTime : ∀ other, .dropped other ∉ trace) :
    ∃ answer, .answered call answer ∈ trace := by
  obtain ⟨entry, hEntry, hCall⟩ := List.mem_filterMap.mp h
  cases entry with
  | answered other answer =>
      cases hCall
      exact ⟨answer, hEntry⟩
  | dropped other => exact (hInTime other hEntry).elim
  | logged event => cases hCall

/-! ## Outcomes in sequence -/

/-- What succeeds after something else has had that succeed first. -/
theorem exists_of_bind_ok {ε α β : Type} {first : Except ε α} {next : α → Except ε β} {result : β}
    (h : first.bind next = .ok result) : ∃ value, first = .ok value ∧ next value = .ok result := by
  cases first with
  | error error => cases h
  | ok value => exact ⟨value, rfl, h⟩

namespace Outcome

/-- The outcome with something that was seen before it. -/
def behind (before : List Entry) (outcome : Outcome σ α) : Outcome σ α :=
  { outcome with trace := before ++ outcome.trace }

@[simp] theorem behind_ending (before : List Entry) (outcome : Outcome σ α) :
    (outcome.behind before).ending = outcome.ending := rfl

@[simp] theorem behind_scene (before : List Entry) (outcome : Outcome σ α) :
    (outcome.behind before).scene = outcome.scene := rfl

@[simp] theorem behind_trace (before : List Entry) (outcome : Outcome σ α) :
    (outcome.behind before).trace = before ++ outcome.trace := rfl

@[simp] theorem behind_nil (outcome : Outcome σ α) : outcome.behind [] = outcome := rfl

/-- Goes on where a finished run has ended. A run that was dropped stays as it is. -/
def andThen (outcome : Outcome σ α) (next : α → Scene σ → Outcome σ β) : Outcome σ β :=
  match outcome.ending with
  | .finished value => (next value outcome.scene).behind outcome.trace
  | .dropped holds => ⟨.dropped holds, outcome.scene, outcome.trace⟩

/-- A run that is over goes on where it ended. -/
theorem andThen_of_finished {outcome : Outcome σ α} {value : α}
    (h : outcome.ending = .finished value) (next : α → Scene σ → Outcome σ β) :
    outcome.andThen next = (next value outcome.scene).behind outcome.trace := by
  simp [andThen, h]

/-- A run that was dropped does not go on. -/
theorem andThen_of_dropped {outcome : Outcome σ α} {holds : List Hold}
    (h : outcome.ending = .dropped holds) (next : α → Scene σ → Outcome σ β) :
    outcome.andThen next = ⟨.dropped holds, outcome.scene, outcome.trace⟩ := by
  simp [andThen, h]

/-- What was asked before does not change how a run goes on. -/
theorem andThen_behind (before : List Entry) (outcome : Outcome σ α)
    (next : α → Scene σ → Outcome σ β) :
    (outcome.behind before).andThen next = (outcome.andThen next).behind before := by
  cases h : outcome.ending with
  | finished value => simp [andThen, h, behind]
  | dropped holds => simp [andThen, h, behind]

/-- The outcome of a run in which something was in hand throughout. -/
def holding (hold : Hold) (outcome : Outcome σ α) : Outcome σ α :=
  match outcome.ending with
  | .finished _ => outcome
  | .dropped holds => { outcome with ending := .dropped (holds ++ [hold]) }

theorem holding_of_finished {outcome : Outcome σ α} {value : α}
    (h : outcome.ending = .finished value) (hold : Hold) : outcome.holding hold = outcome := by
  simp [holding, h]

/-- What is held on to is cleared last if the run is dropped. -/
theorem holding_of_dropped {outcome : Outcome σ α} {holds : List Hold}
    (h : outcome.ending = .dropped holds) (hold : Hold) :
    outcome.holding hold = ⟨.dropped (holds ++ [hold]), outcome.scene, outcome.trace⟩ := by
  simp [holding, h]

theorem holding_behind (before : List Entry) (outcome : Outcome σ α) (hold : Hold) :
    (outcome.behind before).holding hold = (outcome.holding hold).behind before := by
  cases h : outcome.ending with
  | finished value => simp [holding, h]
  | dropped holds => simp [holding, h, behind]

end Outcome

/-- The ending of a program whose value is changed at the end. -/
def Ending.map {α β : Type} (f : α → β) : Ending α → Ending β
  | .finished value => .finished (f value)
  | .dropped holds => .dropped holds

/-- A mapped ending is finished only with a mapped value. -/
theorem Ending.finished_of_map {α β : Type} {f : α → β} {ending : Ending α} {result : β}
    (h : ending.map f = .finished result) : ∃ value, ending = .finished value ∧ f value = result := by
  cases ending with
  | dropped holds => cases h
  | finished value =>
      cases h
      exact ⟨value, rfl, rfl⟩

/-- What comes of a call: its answer and the scene after it, or the scene in which the program is
dropped while it waits. -/
def Scene.ask (world : World σ) (deadline : Option Duration) (call : Call) (scene : Scene σ) :
    Except (Scene σ) (call.Answer × Scene σ) :=
  match world call scene.world with
  | (.after delay value, state) =>
    if endsInTime deadline scene.elapsed delay.nanoseconds then
      .ok (value, { scene with world := state, elapsed := scene.elapsed + delay.nanoseconds })
    else .error { scene with world := state }
  | (.never, state) => .error { scene with world := state }

/-- A call that is answered does not touch the handle. -/
theorem Scene.handle_of_ask_ok {call : Call} {scene after : Scene σ} {answer : call.Answer}
    (h : scene.ask world deadline call = .ok (answer, after)) : after.handle = scene.handle := by
  unfold Scene.ask at h
  split at h
  · split at h
    · cases h
      rfl
    · cases h
  · cases h

theorem Scene.handle_of_ask_error {call : Call} {scene after : Scene σ}
    (h : scene.ask world deadline call = .error after) : after.handle = scene.handle := by
  unfold Scene.ask at h
  split at h
  · split at h
    · cases h
    · cases h
      rfl
  · cases h
    rfl

/-- The surroundings go on as they say, after the delay that they say. -/
theorem Scene.world_of_ask_ok {call : Call} {scene after : Scene σ} {answer : call.Answer}
    (h : scene.ask world deadline call = .ok (answer, after)) :
    ∃ delay, world call scene.world = (.after delay answer, after.world) := by
  unfold Scene.ask at h
  split at h
  · next delay value state hWorld =>
    split at h
    · cases h
      exact ⟨delay, hWorld⟩
    · cases h
  · cases h

/-- The surroundings have done what was asked for, also where nobody waits for the answer. -/
theorem Scene.world_of_ask_error {call : Call} {scene after : Scene σ}
    (h : scene.ask world deadline call = .error after) :
    after.world = (world call scene.world).2 := by
  unfold Scene.ask at h
  split at h
  · next hWorld =>
    split at h
    · cases h
    · cases h
      rw [hWorld]
  · next hWorld =>
    cases h
    rw [hWorld]

/-- Without a deadline, only a call that is never answered drops a program. -/
theorem Scene.exists_ask_ok {call : Call} {scene : Scene σ}
    (h : (world call scene.world).1 ≠ .never) :
    ∃ answer after, scene.ask world none call = .ok (answer, after) := by
  unfold Scene.ask
  cases hWorld : world call scene.world with
  | mk reply state =>
      cases reply with
      | after delay value => exact ⟨value, _, by simp [endsInTime]; rfl⟩
      | never => exact absurd (congrArg Prod.fst hWorld) h

namespace Program

/-- A call, and what comes after it. -/
theorem run_ask (call : Call) (holds : List Hold) (next : call.Answer → Program α)
    (scene : Scene σ) :
    (Program.ask call holds next).run world deadline scene =
      match scene.ask world deadline call with
      | .ok (answer, after) =>
        ((next answer).run world deadline after).behind [.answered call answer]
      | .error after => ⟨.dropped holds, after, [.dropped call]⟩ := by
  rw [run, Scene.ask]
  cases world call scene.world with
  | mk reply state =>
      cases reply with
      | never => rfl
      | after delay value =>
          dsimp only
          cases endsInTime deadline scene.elapsed delay.nanoseconds <;> rfl

/-- A program after another runs where the other has ended. -/
theorem run_bind (p : Program α) (f : α → Program β) (scene : Scene σ) :
    (p.bind f).run world deadline scene =
      (p.run world deadline scene).andThen fun value scene =>
        (f value).run world deadline scene := by
  induction p generalizing scene with
  | done value => simp [bind, run, Outcome.andThen]
  | log event rest ih =>
      rw [bind, run, ih]
      exact (Outcome.andThen_behind [.logged event] _ _).symm
  | visit change next ih =>
      rw [bind, run, ih]
      rfl
  | ask call holds next ih =>
      rw [bind, run_ask, run_ask]
      cases scene.ask world deadline call with
      | error after => rfl
      | ok result =>
          dsimp only
          rw [ih, Outcome.andThen_behind]

/-- The second program runs from the scene that the first one leaves. -/
theorem run_bind_of_finished {p : Program α} {scene : Scene σ} {value : α}
    (h : (p.run world deadline scene).ending = .finished value) (f : α → Program β) :
    (p.bind f).run world deadline scene =
      ((f value).run world deadline (p.run world deadline scene).scene).behind
        (p.run world deadline scene).trace := by
  rw [run_bind, Outcome.andThen_of_finished h]

/-- The second program does not run if the first is dropped. -/
theorem run_bind_of_dropped {p : Program α} {scene : Scene σ} {holds : List Hold}
    (h : (p.run world deadline scene).ending = .dropped holds) (f : α → Program β) :
    (p.bind f).run world deadline scene =
      ⟨.dropped holds, (p.run world deadline scene).scene, (p.run world deadline scene).trace⟩ := by
  rw [run_bind, Outcome.andThen_of_dropped h]

theorem run_map (p : Program α) (f : α → β) (scene : Scene σ) :
    (p.bind fun value => .done (f value)).run world deadline scene =
      ⟨(p.run world deadline scene).ending.map f, (p.run world deadline scene).scene,
        (p.run world deadline scene).trace⟩ := by
  cases h : (p.run world deadline scene).ending with
  | dropped holds => rw [run_bind_of_dropped h, Ending.map]
  | finished value =>
      rw [run_bind_of_finished h]
      simp [run, Outcome.behind, Ending.map]

/-- A sequence that is finished has finished both of its parts. -/
theorem finished_of_run_bind {p : Program α} {f : α → Program β} {scene : Scene σ} {result : β}
    (h : ((p.bind f).run world deadline scene).ending = .finished result) :
    ∃ value, (p.run world deadline scene).ending = .finished value ∧
      ((f value).run world deadline (p.run world deadline scene).scene).ending =
        .finished result := by
  cases hFirst : (p.run world deadline scene).ending with
  | dropped holds =>
      rw [run_bind_of_dropped hFirst] at h
      cases h
  | finished value =>
      rw [run_bind_of_finished hFirst] at h
      exact ⟨value, rfl, h⟩

/-- Holding on to something shows only if the run is dropped. -/
theorem run_holding (hold : Hold) (p : Program α) (scene : Scene σ) :
    (p.holding hold).run world deadline scene =
      (p.run world deadline scene).holding hold := by
  induction p generalizing scene with
  | done value => rfl
  | log event rest ih =>
      rw [holding, run, ih]
      exact (Outcome.holding_behind [.logged event] _ _).symm
  | visit change next ih =>
      rw [holding, run, ih]
      rfl
  | ask call holds next ih =>
      rw [holding, run_ask, run_ask]
      cases scene.ask world deadline call with
      | error after => rfl
      | ok result =>
          dsimp only
          rw [ih, Outcome.holding_behind]

/-- A run that was dropped shows the call that it waited for. -/
theorem exists_dropped_of_run {p : Program α} {scene : Scene σ} {holds : List Hold}
    (h : (p.run world deadline scene).ending = .dropped holds) :
    ∃ call, .dropped call ∈ (p.run world deadline scene).trace := by
  induction p generalizing scene with
  | done value => cases h
  | log event rest ih =>
      obtain ⟨call, hCall⟩ := ih h
      exact ⟨call, List.mem_cons_of_mem _ hCall⟩
  | visit change next ih => exact ih scene.handle h
  | ask call held next ih =>
      rw [run_ask] at h ⊢
      cases hAsk : scene.ask world deadline call with
      | error after => exact ⟨call, List.mem_singleton.mpr rfl⟩
      | ok result =>
          rw [hAsk] at h
          obtain ⟨other, hOther⟩ := ih result.1 h
          exact ⟨other, List.mem_cons_of_mem _ hOther⟩

/-- A run that did not drop any call is finished. -/
theorem exists_finished_of_run {p : Program α} {scene : Scene σ}
    (h : ∀ call, .dropped call ∉ (p.run world deadline scene).trace) :
    ∃ value, (p.run world deadline scene).ending = .finished value := by
  cases hEnding : (p.run world deadline scene).ending with
  | finished value => exact ⟨value, rfl⟩
  | dropped holds =>
      obtain ⟨call, hCall⟩ := exists_dropped_of_run hEnding
      exact (h call hCall).elim

/-! ## What a program may do -/

/-- All calls of the program are allowed with what it has in hand at them, and all its changes
of the handle keep it sound. -/
def Obeys (allowed : Call → List Hold → Prop) (sound : Handle → Prop) : Program α → Prop
  | .done _ => True
  | .log _ rest => rest.Obeys allowed sound
  | .visit change next => ∀ handle, sound handle →
      sound (change handle) ∧ (next handle).Obeys allowed sound
  | .ask call holds next => allowed call holds ∧ ∀ answer, (next answer).Obeys allowed sound

variable {allowed : Call → List Hold → Prop} {sound : Handle → Prop}

/-- Two programs obey one after the other what they obey alone. -/
theorem Obeys.bind {p : Program α} {f : α → Program β} (hp : p.Obeys allowed sound)
    (hf : ∀ value, (f value).Obeys allowed sound) : (p.bind f).Obeys allowed sound := by
  induction p with
  | done value => exact hf value
  | log event rest ih => exact ih hp
  | visit change next ih => exact fun handle h => ⟨(hp handle h).1, ih handle (hp handle h).2⟩
  | ask call holds next ih => exact ⟨hp.1, fun answer => ih answer (hp.2 answer)⟩

/-- What obeys a rule obeys every milder one. -/
theorem Obeys.mono {permitted : Call → List Hold → Prop} {p : Program α}
    (hp : p.Obeys allowed sound)
    (hAllowed : ∀ call holds, allowed call holds → permitted call holds) :
    p.Obeys permitted sound := by
  induction p with
  | done value => trivial
  | log event rest ih => exact ih hp
  | visit change next ih => exact fun handle h => ⟨(hp handle h).1, ih handle (hp handle h).2⟩
  | ask call holds next ih =>
      exact ⟨hAllowed call holds hp.1, fun answer => ih answer (hp.2 answer)⟩

variable (world deadline) in
/-- What a program may do bounds each of its runs: every call was allowed, the handle is sound
throughout, and a run that was dropped waited for an allowed call with just these things in hand. -/
theorem Obeys.run {p : Program α} (hp : p.Obeys allowed sound) (scene : Scene σ)
    (hSound : sound scene.handle) :
    let outcome := p.run world deadline scene
    (∀ call ∈ callsOf outcome.trace, ∃ holds, allowed call holds) ∧ sound outcome.scene.handle ∧
      ∀ holds, outcome.ending = .dropped holds → ∃ call, allowed call holds := by
  induction p generalizing scene with
  | done value => exact ⟨by simp [Program.run], hSound, by simp [Program.run]⟩
  | log event rest ih => exact ih hp scene hSound
  | visit change next ih =>
      obtain ⟨hChange, hNext⟩ := hp scene.handle hSound
      exact ih scene.handle hNext { scene with handle := change scene.handle } hChange
  | ask call holds next ih =>
      obtain ⟨hCall, hNext⟩ := hp
      rw [run_ask]
      cases h : scene.ask world deadline call with
      | error after =>
          refine ⟨?_, by rwa [Scene.handle_of_ask_error h], ?_⟩
          · intro c hc
            obtain rfl : c = call := by simpa using hc
            exact ⟨holds, hCall⟩
          · intro held hHeld
            cases hHeld
            exact ⟨call, hCall⟩
      | ok result =>
          obtain ⟨hCalls, hAfter, hHolds⟩ :=
            ih result.1 (hNext result.1) result.2 (by rwa [Scene.handle_of_ask_ok h])
          refine ⟨?_, hAfter, hHolds⟩
          intro c hc
          rcases List.mem_cons.mp hc with rfl | hc
          · exact ⟨holds, hCall⟩
          · exact hCalls c hc

/-! ## What a program may come to -/

/-- Whatever the program comes to is good. -/
def Yields (good : α → Prop) : Program α → Prop
  | .done value => good value
  | .log _ rest => rest.Yields good
  | .visit _ next => ∀ handle, (next handle).Yields good
  | .ask _ _ next => ∀ answer, (next answer).Yields good

theorem yields_true (p : Program α) : p.Yields fun _ => True := by
  induction p with
  | done value => trivial
  | log event rest ih => exact ih
  | visit change next ih => exact ih
  | ask call holds next ih => exact ih

/-- What the second program yields from what the first yields. -/
theorem Yields.bind {first : α → Prop} {good : β → Prop} {p : Program α} {f : α → Program β}
    (hp : p.Yields first) (hf : ∀ value, first value → (f value).Yields good) :
    (p.bind f).Yields good := by
  induction p with
  | done value => exact hf value hp
  | log event rest ih => exact ih hp
  | visit change next ih => exact fun handle => ih handle (hp handle)
  | ask call holds next ih => exact fun answer => ih answer (hp answer)

theorem Yields.holding {good : α → Prop} {p : Program α} (hp : p.Yields good) (hold : Hold) :
    (p.holding hold).Yields good := by
  induction p with
  | done value => exact hp
  | log event rest ih => exact ih hp
  | visit change next ih => exact fun handle => ih handle (hp handle)
  | ask call holds next ih => exact fun answer => ih answer (hp answer)

/-- What a program yields is what its runs end with. -/
theorem Yields.run {good : α → Prop} {p : Program α} (hp : p.Yields good) {scene : Scene σ}
    {value : α} (h : (p.run world deadline scene).ending = .finished value) : good value := by
  induction p generalizing scene with
  | done result =>
      cases h
      exact hp
  | log event rest ih => exact ih hp h
  | visit change next ih => exact ih scene.handle (hp scene.handle) h
  | ask call holds next ih =>
      rw [run_ask] at h
      cases hAsk : scene.ask world deadline call with
      | error after =>
          rw [hAsk] at h
          cases h
      | ok result =>
          rw [hAsk] at h
          exact ih result.1 (hp result.1) h

/-! ## What every call keeps -/

/-- What every call keeps of the surroundings, every run keeps. -/
theorem run_keeps {kept : σ → Prop}
    (hWorld : ∀ call state, kept state → kept (world call state).2) (p : Program α)
    (scene : Scene σ) (h : kept scene.world) :
    kept (p.run world deadline scene).scene.world := by
  induction p generalizing scene with
  | done value => exact h
  | log event rest ih => exact ih scene h
  | visit change next ih => exact ih scene.handle { scene with handle := change scene.handle } h
  | ask call holds next ih =>
      have hAfter := hWorld call scene.world h
      rw [run_ask]
      cases hAsk : scene.ask world deadline call with
      | error after => rwa [← Scene.world_of_ask_error hAsk] at hAfter
      | ok result =>
          obtain ⟨delay, hReply⟩ := Scene.world_of_ask_ok hAsk
          rw [hReply] at hAfter
          exact ih result.1 result.2 hAfter

/-- There is a value only if the run was not dropped. -/
theorem finished_of_runAndClear {runtime : Bool} {p : Program α} {scene : Scene σ} {value : α}
    (h : (p.runAndClear world deadline runtime scene).1 = some value) :
    (p.run world deadline scene).ending = .finished value := by
  unfold runAndClear at h
  dsimp only at h
  split at h
  · next hEnding =>
    cases h
    exact hEnding
  · cases h

/-- What the surroundings keep at every call they keep along a run and what is cleared after it. -/
theorem runAndClear_keeps {kept : σ → Prop}
    (hWorld : ∀ call state, kept state → kept (world call state).2) (runtime : Bool)
    (p : Program α) (scene : Scene σ) (h : kept scene.world) :
    kept (p.runAndClear world deadline runtime scene).2.1.world := by
  have hRun : kept (p.run world deadline scene).scene.world := run_keeps hWorld p scene h
  unfold runAndClear
  dsimp only
  split
  · exact hRun
  · exact run_keeps hWorld _ _ hRun

end Program

end Gatehouse
