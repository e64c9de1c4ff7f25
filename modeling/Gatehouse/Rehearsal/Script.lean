import Gatehouse.Pipeline.Gate

/-! Handlers that follow a script: they tell what the stages handed on to them, run statements,
wait, fail in a given way or answer. With them a pipeline can be tried out without operations of
its own. -/
namespace Gatehouse.Rehearsal

structure Script where
  showsTenant : Bool
  showsClaims : Bool
  /-- Asks for the transaction and runs these statements on it. -/
  statements : Option (List String)
  /-- Asks for the transaction and gives a clone of its handle away. -/
  keeps : Bool
  /-- A statement that fails is told in the body and does not end the handler. -/
  ignoresErrors : Bool
  pause : Option Duration
  panic : Option Panic
  /-- A refusal to end with, and the events that go with it. -/
  refusal : Option (Refusal × List Event)
  status : Nat
  /-- Headers behind that of the content type. -/
  headers : List (String × Bytes)

namespace Script

/-- What a step adds to the body, unless it ends the handler. -/
abbrev Members := Except Refusal (List (String × Json String))

def tenantMembers (script : Script) (context : Context) : Handling Members :=
  if script.showsTenant then do
    match ← context.requireTenant with
    | .error refusal => pure (.error refusal)
    | .ok tenant =>
      pure (.ok [("tenant", .array [.string tenant.id, .string tenant.domain])])
  else pure (.ok [])

def claimsMembers (script : Script) (context : Context) : Handling Members :=
  if script.showsClaims then do
    match ← context.requireClaims with
    | .error refusal => pure (.error refusal)
    | .ok claims => pure (.ok [("claims", claims.toJson)])
  else pure (.ok [])

/-- One row for each statement. -/
def rows (ignoresErrors : Bool) : List String → Handling (Except Refusal (List (Json String)))
  | [] => pure (.ok [])
  | statement :: rest => do
    match ← Handling.run statement with
    | .ok count => do
      pure ((← rows ignoresErrors rest).map fun more => .int count :: more)
    | .error error =>
      if ignoresErrors then do
        pure ((← rows ignoresErrors rest).map fun more =>
          .object [("error", .string error.message)] :: more)
      else do
        Handling.report (Refusal.transactionEvent error)
        pure (.error .internal)

def usesTransaction (script : Script) : Bool :=
  script.statements.isSome || script.keeps

def transactionMembers (script : Script) (context : Context) : Handling Members :=
  if script.usesTransaction then do
    match ← context.requireTransaction with
    | .error refusal => pure (.error refusal)
    | .ok tenant => do
      if script.keeps then Handling.keep tenant (.done ())
      let rows ← rows script.ignoresErrors (script.statements.getD [])
      pure (rows.map fun rows =>
        [("tx_tenant", .string tenant), ("tx_debug", .string (describeHandle tenant)),
         ("rows", .array rows)])
  else pure (.ok [])

def response (script : Script) (members : List (String × Json String)) : Http.Response :=
  let response := Http.Response.text script.status (Json.object members).render
  let added := Http.Headers.ofList script.headers
  { response with headers := ⟨response.headers.fields ++ added.fields⟩ }

def reportAll : List Event → Handling Unit
  | [] => pure ()
  | event :: rest => do
    Handling.report event
    reportAll rest

/-- The end of the script, once the body is known. -/
def conclude (script : Script) (members : List (String × Json String)) : Handling Answer := do
  match script.pause with
  | none => pure ()
  | some duration => Handling.pause duration (.done ())
  match script.panic, script.refusal with
  | some panic, _ => pure (.error panic)
  | none, some (refusal, events) => do
    reportAll events
    Handling.refuse refusal
  | none, none => pure (.ok (script.response members))

/-- The first step that ends the handler decides its answer. -/
def serve (script : Script) : Handler := fun _ context => do
  match ← script.tenantMembers context with
  | .error refusal => Handling.refuse refusal
  | .ok tenant =>
    match ← script.claimsMembers context with
    | .error refusal => Handling.refuse refusal
    | .ok claims =>
      match ← script.transactionMembers context with
      | .error refusal => Handling.refuse refusal
      | .ok transaction => script.conclude (tenant ++ claims ++ transaction)

end Script

end Gatehouse.Rehearsal
