import Gatehouse.Program

/-! Admission control by a counter store that may fail. The store is asked for every request;
if it does not answer in time or answers with an error, the fail mode decides. -/
namespace Gatehouse.RateLimit

structure Limiter where
  config : Config
  failMode : FailMode
  /-- How long the store may take. -/
  patience : Duration
  /-- The name of the store, for the log. -/
  backend : String
  deriving DecidableEq, Repr

/-- What a limiter says about a request. -/
inductive Admission
  | decided (decision : Decision)
  /-- The store failed and the request may pass. -/
  | failedOpen
  /-- The store failed and the request may not pass. -/
  | failedClosed
  deriving DecidableEq, Repr

def Admission.isAllowed : Admission → Bool
  | .decided decision => decision.allowed
  | .failedOpen => true
  | .failedClosed => false

/-- The admission without the store. -/
def FailMode.admission : FailMode → Admission
  | .lenient => .failedOpen
  | .strict => .failedClosed

namespace Limiter

/-- The patience unless another is chosen. -/
def defaultPatience : Duration := .ofSeconds 1

def key (limiter : Limiter) (client : String) : String :=
  limiter.config.key client

/-- Asks the store about a request of a client. -/
def check (limiter : Limiter) (client : String) : Program (Except Error Decision) := do
  let call := Call.count (limiter.key client) limiter.config.limit limiter.patience
  match ← Program.call call with
  | none => pure (.error .timeout)
  | some answer => pure answer

def failureEvent (limiter : Limiter) (error : Error) : Event :=
  .warn "rate limit store failure"
    [("error", error.message), ("backend", limiter.backend),
     ("limiter", limiter.config.limiterName), ("fail_mode", limiter.failMode.name),
     ("reason", "store_unavailable")]

/-- The admission of a request of a client. -/
def admission (limiter : Limiter) (client : String) : Program Admission := do
  match ← limiter.check client with
  | .ok decision => pure (.decided decision)
  | .error error => do
    Program.report (limiter.failureEvent error)
    pure limiter.failMode.admission

def describe (limiter : Limiter) : String :=
  s!"RateLimiter \x7b backend: {Text.quoted limiter.backend}, " ++
    s!"config: {limiter.config.describe}, fail_mode: {limiter.failMode.describe} \x7d"

end Limiter

end Gatehouse.RateLimit
