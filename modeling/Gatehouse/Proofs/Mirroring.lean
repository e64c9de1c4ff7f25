import Gatehouse.Proofs.Execution

/-! Two runs side by side. The surroundings of one fail where those of the other do, with the same
kinds of errors, but with other texts in them. Programs that go on in the same way whatever the
texts are then come to the same, and only their events may differ. -/
namespace Gatehouse

variable {σ τ α β γ δ ε ε' : Type}

/-! ## Errors without their texts -/

def Tenant.LookupError.untold : Tenant.LookupError → Tenant.LookupError
  | .notFound _ => .notFound ""
  | .backend _ => .backend ""

def Store.Error.untold : Store.Error → Store.Error
  | .connection _ => .connection ""
  | .command _ => .command ""
  | .value _ => .value ""

def RateLimit.Error.untold : RateLimit.Error → RateLimit.Error
  | .unavailable cause => .unavailable cause.untold
  | .timeout => .timeout
  | .invalidReply _ => .invalidReply ""

def Database.Error.untold : Database.Error → Database.Error
  | .begin _ => .begin ""
  | .statement _ => .statement ""
  | .commit _ => .commit ""
  | .rollback _ => .rollback ""
  | .finalized => .finalized

/-- What is left of an answer without the texts of errors. -/
def Call.untold : (call : Call) → call.Answer → call.Answer
  | .lookup _, answer => answer.mapError Tenant.LookupError.untold
  | .readCache _, answer => answer.mapError Store.Error.untold
  | .writeCache _ _ _, answer => answer.mapError Store.Error.untold
  | .deleteCache _, answer => answer.mapError Store.Error.untold
  | .count _ _ _, answer => answer.map fun reply => reply.mapError RateLimit.Error.untold
  | .begin, answer => answer.mapError Database.Error.untold
  | .bind _ _, answer => answer.mapError Database.Error.untold
  | .execute _, answer => answer.mapError Database.Error.untold
  | .readSetting _, answer => answer.mapError fun _ => ""
  | .commit, answer => answer.mapError Database.Error.untold
  | .rollback, answer => answer.mapError Database.Error.untold
  | .letGo, answer => answer
  | .untilFree, answer => answer
  | .keep _, answer => answer
  | .pause _, answer => answer

/-- Outcomes that are the same without the texts of their errors are the same, or errors. -/
theorem cases_of_mapError_eq {untold : ε → ε'} {first second : Except ε α}
    (h : first.mapError untold = second.mapError untold) :
    (∃ value, first = .ok value ∧ second = .ok value) ∨
      ∃ error other, first = .error error ∧ second = .error other ∧
        untold error = untold other := by
  cases first with
  | ok value =>
      cases second with
      | ok other =>
          cases h
          exact .inl ⟨value, rfl, rfl⟩
      | error error => cases h
  | error error =>
      cases second with
      | ok value => cases h
      | error other => exact .inr ⟨error, other, rfl, rfl, Except.error.inj h⟩

/-! ## Surroundings -/

def Reply.map (f : α → β) : Reply α → Reply β
  | .after delay value => .after delay (f value)
  | .never => .never

/-- In states that stand for each other, both surroundings answer a call after the same time, with
the same but for the texts of errors, or neither answers it. -/
def AnswerAlike (same : σ → τ → Prop) (world : World σ) (other : World τ) : Prop :=
  ∀ call state counterpart, same state counterpart →
    (world call state).1.map call.untold = (other call counterpart).1.map call.untold ∧
      same (world call state).2 (other call counterpart).2

structure Scene.Mirrors (same : σ → τ → Prop) (scene : Scene σ) (other : Scene τ) : Prop where
  world : same scene.world other.world
  handle : scene.handle = other.handle
  elapsed : scene.elapsed = other.elapsed

variable {same : σ → τ → Prop} {world : World σ} {other : World τ} {deadline : Option Duration}
  {scene : Scene σ} {counterpart : Scene τ}

/-- A call is answered in both scenes or in neither. -/
theorem Scene.Mirrors.ask (h : scene.Mirrors same counterpart)
    (hWorlds : AnswerAlike same world other) (deadline : Option Duration) (call : Call) :
    (∃ answer told after next, scene.ask world deadline call = .ok (answer, after) ∧
      counterpart.ask other deadline call = .ok (told, next) ∧
      call.untold answer = call.untold told ∧ after.Mirrors same next) ∨
    ∃ after next, scene.ask world deadline call = .error after ∧
      counterpart.ask other deadline call = .error next := by
  obtain ⟨hReply, hSame⟩ := hWorlds call scene.world counterpart.world h.world
  unfold Scene.ask
  rw [h.elapsed]
  cases hFirst : world call scene.world with
  | mk reply state =>
      cases hSecond : other call counterpart.world with
      | mk reply' state' =>
          simp only [hFirst, hSecond] at hReply hSame
          cases reply with
          | never =>
              cases reply' with
              | never => exact .inr ⟨_, _, rfl, rfl⟩
              | after delay answer => cases hReply
          | after delay answer =>
              cases reply' with
              | never => cases hReply
              | after delay' told =>
                  obtain ⟨rfl, hUntold⟩ := Reply.after.inj hReply
                  dsimp only
                  cases endsInTime deadline counterpart.elapsed delay.nanoseconds with
                  | true => exact .inl ⟨_, _, _, _, rfl, rfl, hUntold, hSame, h.handle, rfl⟩
                  | false => exact .inr ⟨_, _, rfl, rfl⟩

/-! ## Programs -/

namespace Program

/-- Two programs that make the same calls with the same in hand, do the same to the handle, and go
on like each other after answers that differ in the texts of errors at most. What they come to is
related. Their events may differ. -/
inductive Mirrors (good : α → β → Prop) : Program α → Program β → Prop
  | done {value : α} {result : β} (h : good value result) :
      Mirrors good (.done value) (.done result)
  | log (event event' : Event) {rest : Program α} {rest' : Program β}
      (h : Mirrors good rest rest') : Mirrors good (.log event rest) (.log event' rest')
  | visit (change : Handle → Handle) {next : Handle → Program α} {next' : Handle → Program β}
      (h : ∀ handle, Mirrors good (next handle) (next' handle)) :
      Mirrors good (.visit change next) (.visit change next')
  | ask (call : Call) (holds : List Hold) {next : call.Answer → Program α}
      {next' : call.Answer → Program β}
      (h : ∀ answer told, call.untold answer = call.untold told →
        Mirrors good (next answer) (next' told)) :
      Mirrors good (.ask call holds next) (.ask call holds next')

variable {good : α → β → Prop} {better : γ → δ → Prop} {p : Program α} {q : Program β}

/-- Programs mirror each other in sequence if they do so in their parts. -/
theorem Mirrors.bind (h : p.Mirrors good q) {f : α → Program γ} {g : β → Program δ}
    (hNext : ∀ value result, good value result → (f value).Mirrors better (g result)) :
    (p.bind f).Mirrors better (q.bind g) := by
  induction h with
  | done hGood => exact hNext _ _ hGood
  | log event event' _ ih => exact .log event event' ih
  | visit change _ ih => exact .visit change ih
  | ask call holds _ ih => exact .ask call holds ih

theorem Mirrors.holding (h : p.Mirrors good q) (hold : Hold) :
    (p.holding hold).Mirrors good (q.holding hold) := by
  induction h with
  | done hGood => exact .done hGood
  | log event event' _ ih => exact .log event event' ih
  | visit change _ ih => exact .visit change ih
  | ask call holds _ ih => exact .ask call (holds ++ [hold]) ih

end Program

/-- Both runs are finished, with related values, or both are dropped with the same in hand. -/
inductive Ending.Mirrors (good : α → β → Prop) : Ending α → Ending β → Prop
  | finished {value : α} {result : β} (h : good value result) :
      Mirrors good (.finished value) (.finished result)
  | dropped (holds : List Hold) : Mirrors good (.dropped holds) (.dropped holds)

/-- Programs that mirror each other do so in surroundings that answer alike. -/
theorem Program.Mirrors.run {good : α → β → Prop} {p : Program α} {q : Program β}
    (h : p.Mirrors good q) (hWorlds : AnswerAlike same world other)
    (hScenes : scene.Mirrors same counterpart) (deadline : Option Duration) :
    (p.run world deadline scene).ending.Mirrors good (q.run other deadline counterpart).ending := by
  -- After each call the scenes differ in the state of the surroundings only, as they did before.
  induction h generalizing scene counterpart with
  | done hGood => exact .finished hGood
  | log event event' _ ih => exact ih hScenes
  | visit change _ ih =>
      rw [Program.run, Program.run, hScenes.handle]
      exact ih counterpart.handle ⟨hScenes.world, rfl, hScenes.elapsed⟩
  | ask call holds _ ih =>
      rw [run_ask, run_ask]
      rcases hScenes.ask hWorlds deadline call with
        ⟨answer, told, after, next, hAsk, hAsked, hUntold, hAfter⟩ | ⟨after, next, hAsk, hAsked⟩
      · simp only [hAsk, hAsked]
        exact ih answer told hUntold hAfter
      · simp only [hAsk, hAsked]
        exact .dropped holds

end Gatehouse
