import Gatehouse.Run
import Gatehouse.Site.Routes

/-! What surrounds all routes: every response bears the id of its request, a request that is too
large or takes too long is ended, and a panic becomes an internal error. Responses tell their
length, and those to `HEAD` have no body, except where a path leads nowhere. -/
namespace Gatehouse.Site

/-- The largest body that a request may announce, in bytes. -/
def bodyLimit : Nat := 1024 * 1024

/-- The request announces a body above the limit. -/
def isTooLarge (request : Http.Request) : Bool :=
  match (request.headers.first? "content-length").bind Text.readable? with
  | none => false
  | some text => ((Text.readNat? Text.maxU64 text).any fun length => bodyLimit < length)

def tooLarge : Http.Response :=
  .text 413 "length limit exceeded"

/-- The id that the client gave the request, or a fresh one. -/
def requestId (request : Http.Request) (fresh : Bytes) : Bytes :=
  (request.headers.first? "x-request-id").getD fresh

/-- Puts the id on a response that has none. -/
def addRequestId (id : Bytes) (response : Http.Response) : Http.Response :=
  if response.headers.contains "x-request-id" then response
  else { response with headers := response.headers.set "x-request-id" id }

def panicText : Panic → String
  | .text message => message
  | .other => "unknown panic"

/-- Turns a panic into an internal error. -/
def catchPanic (program : Program Answer) : Program Http.Response :=
  program.bind fun
    | .ok response => .done response
    | .error panic =>
      .log (.error "request handler panicked" [("panic", panicText panic)])
        (.done Refusal.internal.response)

/-- Adds a header unless the response has it. -/
def addMissing (name value : String) (response : Http.Response) : Http.Response :=
  if response.headers.contains name then response else response.setHeader name value

def addAllow (route : Option Route) (request : Http.Request) (response : Http.Response) :
    Http.Response :=
  if route.any Route.isReadOnly && !isReading request then addMissing "allow" "GET,HEAD" response
  else response

def addLength (response : Http.Response) : Http.Response :=
  addMissing "content-length" (toString response.body.utf8ByteSize) response

/-- The request is for a path, and no route has it. A target without a path is no such request. -/
def leadsNowhere (route : Option Route) (request : Http.Request) : Bool :=
  route.isNone && request.target.path.head? == some '/'

/-- The response as it is sent. A successful answer to `CONNECT` begins a tunnel and has no
body. A request that leads nowhere gets its response as it is. -/
def complete (route : Option Route) (request : Http.Request) (response : Http.Response) :
    Http.Response :=
  if request.method = "CONNECT" ∧ 200 ≤ response.status ∧ response.status < 300 then
    { response with body := "" }
  else if leadsNowhere route request then response
  else
    let response := addLength (addAllow route request response)
    if request.method = "HEAD" then { response with body := "" } else response

/-- How a request ends for its client. -/
inductive Reception
  | response (response : Http.Response)
  /-- Nothing caught a panic. -/
  | panicked (panic : Panic)
  /-- The client went away before there was an answer. -/
  | abandoned

/-- The routes, and the time that a request may take. Without a time the routes stand alone,
with nothing around them. -/
structure Server where
  routes : List Route
  timeout : Option Duration

/-- How long the client waits: for ever, or not at all. When it leaves, the rest of the request
is cleared away where a runtime is at hand, or where none is. -/
inductive Patience
  | stays
  | leaves (runtime : Bool)
  deriving DecidableEq, Repr

namespace Server

variable {σ : Type}

/-- A request that has no time at all is over before its client can leave. -/
def patience (server : Server) (patience : Patience) : Patience :=
  if server.timeout = some .zero then .stays else patience

/-- Runs a program for a client, within a time. A client that leaves does so when the request
has to wait for the first time. -/
def attempt {α : Type} (world : World σ) (timeout : Option Duration) (patience : Patience)
    (program : Program α) (scene : Scene σ) : Option α × Scene σ × List Entry :=
  match patience with
  | .stays => program.runAndClear world timeout true scene
  | .leaves runtime => program.runAndClear world (some .zero) runtime scene

/-- Serves a request with nothing around the routes. -/
def receiveBare (server : Server) (world : World σ) (patience : Patience) (request : Http.Request)
    (scene : Scene σ) : Reception × Scene σ × List Entry :=
  let route := find? server.routes request
  match attempt world none patience (dispatch server.routes request) scene with
  | (none, scene, trace) => (.abandoned, scene, trace)
  | (some (.error panic), scene, trace) => (.panicked panic, scene, trace)
  | (some (.ok response), scene, trace) =>
    (.response (complete route request response), scene, trace)

/-- What a dropped request leaves: nothing if the client is gone, and else a timeout, which
does not pass the part that puts the id on responses. -/
def ofDropped (route : Option Route) (request : Http.Request) : Patience → Reception
  | .stays => .response (complete route request (.bare 408))
  | .leaves _ => .abandoned

/-- Serves a request within the boundary. -/
def receiveWithin (server : Server) (timeout : Duration) (world : World σ) (patience : Patience)
    (freshId : Bytes) (request : Http.Request) (scene : Scene σ) :
    Reception × Scene σ × List Entry :=
  let route := find? server.routes request
  let id := requestId request freshId
  if isTooLarge request then
    (.response (complete route request (addRequestId id tooLarge)), scene, [])
  else
    let program := catchPanic (dispatch server.routes request)
    match attempt world (some timeout) patience program scene with
    | (some response, scene, trace) =>
      (.response (complete route request (addRequestId id response)), scene, trace)
    | (none, scene, trace) => (ofDropped route request patience, scene, trace)

/-- Serves a request. -/
def receive (server : Server) (world : World σ) (patience : Patience) (freshId : Bytes)
    (request : Http.Request) (scene : Scene σ) : Reception × Scene σ × List Entry :=
  match server.timeout with
  | none => server.receiveBare world patience request scene
  | some timeout =>
    server.receiveWithin timeout world (server.patience patience) freshId request scene

end Server

end Gatehouse.Site
