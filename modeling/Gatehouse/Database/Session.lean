import Gatehouse.Database.Statement

/-! A session of a database server. A setting that is made in a transaction can be read there.
When the transaction ends, a setting of its own is empty again, however the transaction ends, and
one that was made for the session stays if the transaction is committed. A statement that fails in
a transaction makes all later ones fail, up to the end of the transaction. -/
namespace Gatehouse.Database

inductive Phase
  /-- No transaction is open. -/
  | idle
  | active
  /-- A statement of the open transaction has failed. -/
  | failed
  deriving DecidableEq, Repr

structure Session where
  phase : Phase
  /-- The settings made in the open transaction, the latest first. -/
  settings : List (String × String)
  /-- Those of them that are to outlive the transaction. -/
  pending : List (String × String)
  /-- The settings that have outlived their transactions, the latest first. -/
  lasting : List (String × String)
  /-- The settings that transactions before have made. -/
  known : List String
  deriving DecidableEq, Repr

namespace Session

def fresh : Session := ⟨.idle, [], [], [], []⟩

def begin (session : Session) : Session :=
  { session with phase := .active }

/-- Makes a setting, for the transaction or for the session. -/
def bind (session : Session) (scope : Scope) (name value : String) : Session :=
  { session with
    settings := (name, value) :: session.settings
    pending :=
      match scope with
      | .transaction => session.pending
      | .session => (name, value) :: session.pending }

/-- What a statement makes of the settings. That of a handler is not looked into. -/
def after (session : Session) : Statement → Session
  | .bind scope name value => session.bind scope name value
  | _ => session

/-- The value of a setting; there is none for a setting that was never made. -/
def setting? (session : Session) (name : String) : Option String :=
  match session.settings.lookup name with
  | some value => some value
  | none =>
    match session.lasting.lookup name with
    | some value => some value
    | none => if name ∈ session.known then some "" else none

/-- What a failure does to an open transaction. -/
def fail (session : Session) : Session :=
  match session.phase with
  | .idle => session
  | _ => { session with phase := .failed }

/-- The end of a transaction, by commit, by rollback or because its connection is reused. One in
which a statement has failed is rolled back in any case. -/
def finish (session : Session) (committed : Bool) : Session :=
  let lasting :=
    if committed && session.phase == .active then session.pending ++ session.lasting
    else session.lasting
  ⟨.idle, [], [], lasting, session.settings.map (fun setting => setting.1) ++ session.known⟩

@[simp] theorem after_binding (session : Session) (name value : String) :
    session.after (.binding name value) = session.bind .transaction name value := rfl

theorem setting?_bind_self (session : Session) (scope : Scope) (name value : String) :
    (session.bind scope name value).setting? name = some value := by
  simp [bind, setting?]

/-- Where nothing was set in this transaction, and nothing for the session before, every setting is
empty. -/
theorem eq_empty_of_setting? {session : Session} (hSettings : session.settings = [])
    (hLasting : session.lasting = []) {name value : String}
    (h : session.setting? name = some value) : value = "" := by
  simp only [setting?, hSettings, hLasting, List.lookup_nil, Option.ite_none_right_eq_some,
    Option.some.injEq] at h
  exact h.2.symm

/-- A setting of the session outlives a transaction that is committed. -/
theorem setting?_finish_of_lasting {session : Session} (hActive : session.phase = .active)
    (name value : String) :
    ((session.bind .session name value).finish true).setting? name = some value := by
  simp [bind, finish, setting?, hActive]

end Session

end Gatehouse.Database
