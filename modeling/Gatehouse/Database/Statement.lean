import Gatehouse.Text.Pieces

/-! The statements that the service sends to a database server. -/
namespace Gatehouse.Database

/-- How long a setting lasts. -/
inductive Scope
  /-- Up to the end of the transaction in which it is made. -/
  | transaction
  /-- As long as the session, if that transaction is committed. -/
  | session
  deriving DecidableEq, Repr

inductive Statement
  | findTenant (domain : String)
  | begin
  /-- Makes a setting. -/
  | bind (scope : Scope) (name value : String)
  | readSetting (name : String)
  /-- A statement of a handler. -/
  | run (text : String)
  | commit
  | rollback
  deriving DecidableEq, Repr

namespace Statement

inductive Kind
  | findTenant
  | begin
  | bind
  | readSetting
  | run
  | commit
  | rollback
  deriving DecidableEq, Repr

def kind : Statement → Kind
  | .findTenant _ => .findTenant
  | .begin => .begin
  | .bind _ _ _ => .bind
  | .readSetting _ => .readSetting
  | .run _ => .run
  | .commit => .commit
  | .rollback => .rollback

/-- The statement by which the transaction of a request is bound to its tenant. -/
def binding (name value : String) : Statement :=
  .bind .transaction name value

/-- The text with one space for each run of blanks. -/
def squeezed (text : String) : String :=
  String.ofList ([' '].intercalate (Text.words text.toList))

/-- Whether a setting is local to its transaction, as a statement has it. -/
def localFlag : Scope → String
  | .transaction => "true"
  | .session => "false"

/-- The text of a statement and its parameters. -/
def parts : Statement → List String
  | .findTenant domain =>
    ["SELECT id, domain_name FROM tenants WHERE domain_name = $1 AND is_active", domain]
  | .begin => ["BEGIN"]
  | .bind scope name value =>
    ["SELECT set_config($1, $2, " ++ localFlag scope ++ ")", name, value]
  | .readSetting name => ["SELECT current_setting($1, true)", name]
  | .run text => [squeezed text]
  | .commit => ["COMMIT"]
  | .rollback => ["ROLLBACK"]

end Statement

end Gatehouse.Database
