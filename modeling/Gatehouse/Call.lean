import Gatehouse.Database.Error
import Gatehouse.Duration
import Gatehouse.RateLimit.Basic
import Gatehouse.Store.Error
import Gatehouse.Tenant.Directory

/-! What the service asks of its surroundings: the tenant directory, the key-value store, the
database and the clock. Each call is a point at which a request may have to wait. -/
namespace Gatehouse

inductive Call
  /-- The id of the tenant of a domain. -/
  | lookup (domain : String)
  | readCache (key : String)
  | writeCache (key value : String) (ttl : Duration)
  | deleteCache (key : String)
  /-- Counts a request, with no more than `patience` to wait for the answer. -/
  | count (key : String) (limit : RateLimit.Limit) (patience : Duration)
  | begin
  /-- Sets a session setting for the rest of the transaction. -/
  | bind (name value : String)
  | execute (statement : String)
  | readSetting (name : String)
  | commit
  | rollback
  /-- Lets go of an open transaction without finishing it. -/
  | letGo
  /-- Waits until nobody else works on the transaction. -/
  | untilFree
  /-- Hands a clone of the transaction handle of a tenant to someone who outlives the request. -/
  | keep (tenant : String)
  | pause (duration : Duration)
  deriving DecidableEq, Repr

namespace Call

@[reducible] def Answer : Call → Type
  | lookup _ => Except Tenant.LookupError String
  | readCache _ => Except Store.Error (Option String)
  | writeCache _ _ _ => Except Store.Error Unit
  | deleteCache _ => Except Store.Error Nat
  | count _ _ _ => Option (Except RateLimit.Error RateLimit.Decision)
  | begin => Except Database.Error Unit
  | bind _ _ => Except Database.Error Unit
  | execute _ => Except Database.Error Nat
  | readSetting _ => Except String (Option String)
  | commit => Except Database.Error Unit
  | rollback => Except Database.Error Unit
  | letGo => Unit
  | untilFree => Unit
  | keep _ => Unit
  | pause _ => Unit

end Call

end Gatehouse
