import Gatehouse.Proofs.Execution
import Gatehouse.Surroundings.Pool

/-! The connections of a pool. A session is idle only without settings, whatever requests and others
have done with it, and none is made that would outlive its transaction, so that no transaction begins
with a value of an earlier one. What was set in the
transaction in hand stays there, since others do not touch it. -/
namespace Gatehouse

/-! ## Sessions -/

namespace Database.Session

/-- While no transaction is open, no setting has a value, and none is ever made for the session. -/
structure IsClean (session : Session) : Prop where
  settings : session.phase = .idle → session.settings = []
  pending : session.pending = []
  lasting : session.lasting = []

theorem isClean_fresh : fresh.IsClean :=
  ⟨fun _ => rfl, rfl, rfl⟩

/-- Beginning a transaction sets nothing. -/
theorem IsClean.begin {session : Session} (h : session.IsClean) : session.begin.IsClean :=
  ⟨nofun, h.pending, h.lasting⟩

/-- The binding of a request is for its transaction only. -/
theorem IsClean.binding {session : Session} (h : session.IsClean)
    (hActive : session.phase = .active) (name value : String) :
    (session.after (.binding name value)).IsClean := by
  refine ⟨fun hIdle => ?_, h.pending, h.lasting⟩
  cases hActive.symm.trans hIdle

theorem IsClean.fail {session : Session} (h : session.IsClean) : session.fail.IsClean := by
  unfold Session.fail
  split
  · exact h
  · exact ⟨nofun, h.pending, h.lasting⟩

/-- Whether or not it is committed, a transaction takes its settings with it. -/
theorem IsClean.finish {session : Session} (h : session.IsClean) (committed : Bool) :
    (session.finish committed).IsClean :=
  ⟨fun _ => rfl, rfl, by simp [Session.finish, h.pending, h.lasting]⟩

/-- A connection that is given out anew loses a transaction that was left open. -/
theorem IsClean.reused {session : Session} (h : session.IsClean) : session.reused.IsClean := by
  unfold Session.reused
  split
  · exact h
  · exact h.finish false

/-- A transaction begins with no settings on a connection that is given out. -/
theorem IsClean.settings_reused {session : Session} (h : session.IsClean) :
    session.reused.begin.settings = [] := by
  unfold Session.reused
  split
  · next hIdle => exact h.settings hIdle
  · rfl

end Database.Session

namespace Surroundings

open Database

/-! ## Pools -/

/-- Others who use the pool leave clean sessions too. -/
theorem Doing.isClean_apply {session : Session} (h : session.IsClean) (doing : Doing) :
    (doing.apply session).IsClean := by
  cases doing with
  | begin => exact h.reused.begin
  | bind name value =>
      rw [Doing.apply]
      split
      · next hActive => exact h.binding hActive name value
      · exact h
  | fail => exact h.fail
  | finish committed => exact h.finish committed

namespace Pool

/-- Every session of the pool is clean, and every transaction of a request began with no
settings. -/
structure IsClean (pool : Pool) : Prop where
  sessions : ∀ connection, (pool.sessions connection).IsClean
  begun : ∀ session ∈ pool.begun, session.settings = [] ∧ session.lasting = []

theorem isClean_fresh : fresh.IsClean :=
  ⟨fun _ => Session.isClean_fresh, by simp [fresh]⟩

variable {pool : Pool}

theorem IsClean.put (h : pool.IsClean) {connection : Nat} {session : Session}
    (hSession : session.IsClean) : (pool.put connection session).IsClean := by
  refine ⟨fun other => ?_, h.begun⟩
  unfold Pool.put
  dsimp only
  split
  · exact hSession
  · exact h.sessions other

/-- A transaction that a request begins finds nothing set, since the session was idle or is made
so. -/
theorem IsClean.lend (h : pool.IsClean) (connection : Nat) : (pool.lend connection).IsClean := by
  have hBegun : (pool.sessions connection).reused.begin.IsClean :=
    (h.sessions connection).reused.begin
  have hPut : (pool.put connection (pool.sessions connection).reused.begin).IsClean :=
    h.put hBegun
  refine ⟨hPut.sessions, fun session hSession => ?_⟩
  obtain rfl | hEarlier := List.mem_cons.mp hSession
  · exact ⟨(h.sessions connection).settings_reused, hBegun.lasting⟩
  · exact h.begun session hEarlier

theorem IsClean.release (h : pool.IsClean) : pool.release.IsClean :=
  ⟨h.sessions, h.begun⟩

theorem IsClean.finish (h : pool.IsClean) (committed : Bool) : (pool.finish committed).IsClean := by
  unfold Pool.finish
  split
  · exact h
  · next connection _ => exact (h.put ((h.sessions connection).finish committed)).release

/-- A statement can soil no session but the one in hand, and that one only while it is active. -/
theorem IsClean.within (h : pool.IsClean) {α ε : Type} (unusable : ε) (reply : Except ε α)
    {effect : α → Session → α × Session}
    (hEffect : ∀ value session, session.phase = .active → session.IsClean →
      (effect value session).2.IsClean) :
    (pool.within unusable reply effect).2.IsClean := by
  unfold Pool.within
  split
  · exact h
  · next connection _ =>
    dsimp only
    split
    · exact h.put (h.sessions connection).fail
    · split
      · next hActive => exact h.put (hEffect _ _ hActive (h.sessions connection))
      · exact h

/-- No call of a request soils a session, whatever the server replies. -/
theorem IsClean.answer (h : pool.IsClean) (connection : Nat)
    (resettle : List (String × String) → List (String × String)) (call : Call)
    (reply : call.Answer) : (pool.answer connection resettle call reply).2.IsClean := by
  cases call with
  | begin =>
      cases reply with
      | ok value => exact h.lend connection
      | error error => exact h
  | bind name value => exact h.within _ _ fun _ _ hActive hClean => hClean.binding hActive name value
  | execute statement =>
      refine h.within _ _ fun _ session hActive hClean => ⟨fun hIdle => ?_, hClean.pending,
        hClean.lasting⟩
      cases hActive.symm.trans hIdle
  | readSetting name => exact h.within _ _ fun _ _ _ hClean => hClean
  | commit => exact h.finish _
  | rollback => exact h.finish _
  | letGo => exact h.release
  | lookup _ => exact h
  | readCache _ => exact h
  | writeCache _ _ _ => exact h
  | deleteCache _ => exact h
  | count _ _ _ => exact h
  | untilFree => exact h
  | keep _ => exact h
  | pause _ => exact h

theorem IsClean.meanwhile (h : pool.IsClean) (doings : List (Nat × Doing)) :
    (pool.meanwhile doings).IsClean := by
  induction doings generalizing pool with
  | nil => exact h
  | cons first rest ih =>
      obtain ⟨connection, doing⟩ := first
      rw [Pool.meanwhile]
      split
      · exact ih h
      · exact ih (h.put (doing.isClean_apply (h.sessions connection)))

/-! ## The transaction in hand -/

/-- The setting has the value in the transaction in hand. -/
def Binds (pool : Pool) (name value : String) : Prop :=
  ∃ connection, pool.inHand = some connection ∧
    (pool.sessions connection).setting? name = some value

/-- A statement that succeeds was run on the session in hand, and that one stays in hand. -/
theorem within_ok {α ε : Type} {unusable : ε} {reply : Except ε α}
    {effect : α → Session → α × Session} {value : α} {after : Pool}
    (h : pool.within unusable reply effect = (.ok value, after)) :
    ∃ connection given, pool.inHand = some connection ∧
      value = (effect given (pool.sessions connection)).1 ∧
      after.sessions connection = (effect given (pool.sessions connection)).2 ∧
      after.inHand = some connection := by
  unfold Pool.within at h
  split at h
  · cases h
  · next connection hHand =>
    cases reply with
    | error error => cases h
    | ok given =>
        dsimp only at h
        split at h
        · cases h
          refine ⟨connection, given, hHand, rfl, ?_, hHand⟩
          simp [Pool.put]
        · cases h

/-- After a binding that succeeded the setting has this value in the transaction in hand. -/
theorem binds_of_bind {connection : Nat}
    {resettle : List (String × String) → List (String × String)} {name value : String}
    {reply : Except Database.Error Unit} {after : Pool}
    (h : pool.answer connection resettle (.bind name value) reply = (.ok (), after)) :
    after.Binds name value := by
  rw [answer] at h
  obtain ⟨connection, -, -, -, hSession, hHand⟩ := within_ok h
  refine ⟨connection, hHand, ?_⟩
  rw [hSession]
  exact Session.setting?_bind_self ..

/-- A setting that is bound is read as it was bound. -/
theorem Binds.readSetting {connection : Nat}
    {resettle : List (String × String) → List (String × String)} {name value : String}
    (h : pool.Binds name value) {reply : Except String (Option String)} {read : Option String}
    {after : Pool}
    (hRead : pool.answer connection resettle (.readSetting name) reply = (.ok read, after)) :
    read = some value := by
  obtain ⟨given, hGiven, hSetting⟩ := h
  rw [answer] at hRead
  obtain ⟨connection, -, hHand, hValue, -, -⟩ := within_ok hRead
  obtain rfl : given = connection := Option.some.inj (hGiven.symm.trans hHand)
  exact hValue.trans hSetting

/-- Others do not touch the transaction in hand. -/
theorem Binds.meanwhile {name value : String} (h : pool.Binds name value)
    (doings : List (Nat × Doing)) : (pool.meanwhile doings).Binds name value := by
  induction doings generalizing pool with
  | nil => exact h
  | cons first rest ih =>
      obtain ⟨other, doing⟩ := first
      rw [Pool.meanwhile]
      split
      · exact ih h
      · next hOther =>
        obtain ⟨connection, hHand, hSetting⟩ := h
        refine ih ⟨connection, hHand, ?_⟩
        have hNe : connection ≠ other := by
          rintro rfl
          exact hOther hHand
        simpa [Pool.put, hNe] using hSetting

end Pool

/-! ## Calls on a pool -/

variable {σ : Type} {others : Others σ} {deadline : Option Duration}

/-- The pool stays clean at every call, with all that others do before and after it. -/
theorem isClean_pooled (others : Others σ) (call : Call) (state : σ × Pool)
    (h : state.2.IsClean) :
    (pooled others call state).2.2.IsClean := by
  obtain ⟨state, pool⟩ := state
  unfold pooled
  dsimp only
  split
  · exact h.meanwhile _
  · exact (h.answer _ _ _ _).meanwhile _

/-- A call that is answered has done to the pool what the pool says, and then others have used
theirs. -/
theorem ask_pooled {call : Call} {scene after : Scene (σ × Pool)} {answer : call.Answer}
    (h : scene.ask (pooled others) deadline call = .ok (answer, after)) :
    ∃ connection resettle reply pool doings,
      scene.world.2.answer connection resettle call reply = (answer, pool) ∧
      after.world.2 = pool.meanwhile doings := by
  obtain ⟨delay, hReply⟩ := Scene.world_of_ask_ok h
  unfold pooled at hReply
  dsimp only at hReply
  split at hReply
  · cases hReply
  · next reply next _ =>
    have hAnswer := congrArg Prod.fst hReply
    have hPool := congrArg (fun result => result.2.2) hReply
    cases hAnswer
    exact ⟨_, _, reply, _, _, rfl, hPool.symm⟩

end Surroundings

end Gatehouse
