import Gatehouse.Duration
import Gatehouse.Store.Error
import Gatehouse.Text.Ascii
import Gatehouse.Text.Blank
import Gatehouse.Text.Quoted

/-! Rate limits, the decisions of the counter store and its failures. -/
namespace Gatehouse.RateLimit

/-- `rate` requests are sustained in every `period`, and `burst` may come at once. -/
structure Limit where
  rate : Nat
  burst : Nat
  period : Duration
  deriving DecidableEq, Repr

/-- What the counter store says about one request. -/
structure Decision where
  allowed : Bool
  /-- How many more requests would be admitted now. -/
  remaining : Nat
  /-- The time until the full quota is back. -/
  resetAfter : Duration
  /-- The time until a request would be admitted. -/
  retryAfter : Duration
  deriving DecidableEq, Repr

inductive Error
  | unavailable (cause : Store.Error)
  | timeout
  | invalidReply (raw : String)
  deriving DecidableEq, Repr

def Error.message : Error → String
  | .unavailable cause => s!"rate store unavailable: {cause.message}"
  | .timeout => "rate store timed out"
  | .invalidReply raw => s!"rate store reply invalid: {raw}"

/-- What to do with requests while the counter store fails: let them pass, or turn them away. -/
inductive FailMode
  | lenient
  | strict
  deriving DecidableEq, Repr

namespace FailMode

def name : FailMode → String
  | .lenient => "open"
  | .strict => "closed"

def describe : FailMode → String
  | .lenient => "Open"
  | .strict => "Closed"

/-- Reads the name of a mode in any case, with any blanks around it. The error is the text as
it was understood. -/
def parse (text : String) : Except String FailMode :=
  let word := String.ofList (Text.lower (Text.trim text.toList))
  if word = "open" then .ok .lenient
  else if word = "closed" then .ok .strict
  else .error s!"unknown rate limit fail mode: {word}"

end FailMode

/-- A limit that is counted under a name. -/
structure Config where
  name : String
  limit : Limit
  deriving DecidableEq, Repr

namespace Config

/-- The name that counts: an empty one stands for `default`. -/
def limiterName (config : Config) : String :=
  if config.name.isEmpty then "default" else config.name

/-- The key under which the requests of a client are counted. -/
def key (config : Config) (client : String) : String :=
  s!"ratelimit:{config.limiterName}:{client}"

def describe (config : Config) : String :=
  let limit := config.limit
  s!"RateLimitConfig \x7b name: {Text.quoted config.name}, rate: {limit.rate}, " ++
    s!"burst: {limit.burst}, period: {limit.period.describe} \x7d"

end Config

/-- The wait that a refused client is told, in whole seconds and at least one. -/
def retryAfterSeconds (wait : Duration) : Nat :=
  wait.secondsAtLeastOne

end Gatehouse.RateLimit
