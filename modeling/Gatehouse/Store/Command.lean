import Gatehouse.Store.Server

/-! The commands that the service sends to a key-value server. -/
namespace Gatehouse.Store

/-- The name of the server in the log. -/
def serverName : String := "valkey"

/-- What diagnostics show of the connection to the server. -/
def describeServer : String :=
  "ValkeyClient \x7b .. \x7d"

inductive Command
  | get (key : String)
  | set (key value : String) (seconds : Nat)
  | delete (key : String)
  | count (key : String) (quota : RateLimit.Gcra.Quota Float)
  /-- The write that counting does on the server. -/
  | keep (key : String) (time : Float) (seconds : Int)

inductive Command.Kind
  | get
  | set
  | delete
  | count
  | keep
  deriving DecidableEq, Repr

def Command.kind : Command → Command.Kind
  | .get _ => .get
  | .set _ _ _ => .set
  | .delete _ => .delete
  | .count _ _ => .count
  | .keep _ _ _ => .keep

namespace Data

/-- What the server replies at clock time `now`, its data then, and what it did by itself. -/
def apply (data : Data Float) (now : Int) : Command → Reply × Data Float × List Command
  | .get key =>
    match data.read now key with
    | none => (.nothing, data, [])
    | some text => (.bulk (Bytes.ofText text), data, [])
  | .set key value seconds => (.status "OK", data.setFor now key (.text value) seconds, [])
  | .delete key =>
    let (existed, data) := data.delete now key
    (.int (if existed then 1 else 0), data, [])
  | .count key quota =>
    let (verdict, data) := data.count now key quota
    (replyOf verdict, data,
      match verdict.keep with
      | none => []
      | some (time, seconds) => [.keep key time seconds])
  | .keep key time seconds =>
    (.status "OK", data.setFor now key (.arrival time) seconds.toNat, [])

end Data

end Gatehouse.Store
