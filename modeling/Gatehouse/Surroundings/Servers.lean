import Gatehouse.Database.Session
import Gatehouse.Run
import Gatehouse.Store.Command
import Gatehouse.Text.Ascii
import Gatehouse.Text.Uuid

/-! Surroundings made of two servers: a database with the table of tenants and one session, and
a key-value server. What is sent to each is kept in order. Statements can be made to fail, and
replies of the key-value server to be others than it would give. -/
namespace Gatehouse.Surroundings

structure TenantRow where
  id : String
  domain : String
  isActive : Bool
  deriving DecidableEq, Repr

structure Servers where
  tenants : List TenantRow
  session : Database.Session
  databaseFaults : List Database.Statement.Kind
  /-- What every setting reads as, if it is not to be read from the session. -/
  settingInstead : Option (Option String)
  /-- How many rows a statement of a handler affects. -/
  affected : Nat
  statements : List Database.Statement
  data : Store.Data Float
  /-- The time of the key-value server, in microseconds. -/
  clock : Int
  /-- The key-value server has been taught the counting script. -/
  knowsScript : Bool
  repliesInstead : List (Store.Command.Kind × Store.Reply)
  commands : List Store.Command

namespace Servers

/-- Servers that nothing has been sent to. -/
def fresh (tenants : List TenantRow) : Servers :=
  ⟨tenants, .fresh, [], none, 1, [], .empty, 0, false, [], []⟩

/-! ## Database -/

/-- What the server says of every statement that fails. -/
def failure : String := "refused"

/-- The servers after a statement was sent. -/
def sent (servers : Servers) (statement : Database.Statement) : Servers :=
  { servers with statements := servers.statements ++ [statement] }

def fails (servers : Servers) (statement : Database.Statement) : Bool :=
  decide (statement.kind ∈ servers.databaseFaults)

/-- How the database tells an id. -/
def tell (id : String) : String :=
  String.ofList ((Text.uuid? id.toList).getD (Text.lower id.toList))

/-- The id in the first active row of a domain. -/
def lookup (servers : Servers) (domain : String) : Except Tenant.LookupError String :=
  if servers.fails (.findTenant domain) then .error (.backend failure)
  else
    match servers.tenants.find? fun row => row.isActive && row.domain == domain with
    | some row => .ok (tell row.id)
    | none => .error (.notFound domain)

def begin (servers : Servers) : Except Database.Error Unit × Servers :=
  let next := servers.sent .begin
  if servers.fails .begin then (.error (.begin failure), next)
  else (.ok (), { next with session := servers.session.begin })

/-- Runs a statement in the open transaction. -/
def within {α : Type} (servers : Servers) (statement : Database.Statement)
    (effect : Database.Session → α × Database.Session) : Except String α × Servers :=
  let next := servers.sent statement
  if servers.fails statement || servers.session.phase == .failed then
    (.error failure, { next with session := servers.session.fail })
  else
    let (value, session) := effect servers.session
    (.ok value, { next with session })

/-- Ends the open transaction. If that fails, the transaction is rolled back before the
connection is used again. -/
def finish (servers : Servers) (statement : Database.Statement) : Except String Unit × Servers :=
  let committed := statement == .commit && !servers.fails statement
  let next := { servers.sent statement with session := servers.session.finish committed }
  if servers.fails statement then (.error failure, next.sent .rollback) else (.ok (), next)

def readSetting (servers : Servers) (name : String) : Except String (Option String) × Servers :=
  servers.within (.readSetting name) fun session =>
    (servers.settingInstead.getD (session.setting? name), session)

/-! ## Key-value server -/

/-- Sends a command and takes the reply. A command that is replied to otherwise is not run. -/
def send (servers : Servers) (command : Store.Command) : Store.Reply × Servers :=
  match servers.repliesInstead.lookup command.kind with
  | some reply => (reply, { servers with commands := servers.commands ++ [command] })
  | none =>
    let (reply, data, done) := servers.data.apply servers.clock command
    (reply, { servers with data, commands := servers.commands ++ command :: done })

/-- Sends the counting command. A server that has never seen the script asks for it before it
looks at the command. One that asks for a script that it should know is sent it, and the command
for a second time. -/
def sendCount (servers : Servers) (command : Store.Command) : Store.Reply × Servers :=
  let (reply, next) := servers.send command
  if servers.knowsScript && reply.lacksScript then next.send command
  else (reply, { next with knowsScript := true })

/-! ## Calls -/

/-- No call takes any time. -/
def answer (servers : Servers) : (call : Call) → call.Answer × Servers
  | .lookup domain => (servers.lookup domain, servers.sent (.findTenant domain))
  | .readCache key =>
    let (reply, servers) := servers.send (.get key)
    (reply.readValue, servers)
  | .writeCache key value ttl =>
    let (reply, servers) := servers.send (.set key value ttl.secondsAtLeastOne)
    (reply.readDone, servers)
  | .deleteCache key =>
    let (reply, servers) := servers.send (.delete key)
    (reply.readCount, servers)
  | .count key limit _ =>
    let (reply, servers) := servers.sendCount (.count key (Store.quotaOf limit))
    (some reply.readDecision, servers)
  | .begin => servers.begin
  | .bind name value =>
    let statement := .binding name value
    let (done, servers) := servers.within statement fun session => ((), session.after statement)
    (done.mapError .statement, servers)
  | .execute statement =>
    let (done, servers) := servers.within (.run statement) fun session =>
      (servers.affected, session)
    (done.mapError .statement, servers)
  | .readSetting name => servers.readSetting name
  | .commit =>
    let (done, servers) := servers.finish .commit
    (done.mapError .commit, servers)
  | .rollback =>
    let (done, servers) := servers.finish .rollback
    (done.mapError .rollback, servers)
  | .letGo => ((), { servers.sent .rollback with session := servers.session.finish false })
  | .untilFree => ((), servers)
  | .keep _ => ((), servers)
  | .pause _ => ((), servers)

/-- Two servers as the surroundings of a program. -/
def world : World Servers := fun call servers =>
  let (value, next) := servers.answer call
  match call with
  | .pause duration => (.after duration (), next)
  | _ => (.now value, next)

end Servers

end Gatehouse.Surroundings
