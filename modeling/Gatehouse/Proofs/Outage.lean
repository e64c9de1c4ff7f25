import Gatehouse.Config.Basic
import Gatehouse.Proofs.Counting
import Gatehouse.Proofs.Punctuality

/-! Outages of the counter store, under a limiter that then lets every request pass. A request is
served as if there were no limiter, but later: it has waited for the store. That is the same to its
client unless the time runs out on it because of that. -/
namespace Gatehouse

open Surroundings

variable {σ τ α β : Type} {world : World σ} {counter : Counter τ}

/-! ## Matching outcomes -/

/-- What was asked in a run, counting apart, with the answers. -/
def asked (trace : List Entry) : List Entry :=
  trace.filter fun entry =>
    match entry.call? with
    | none => false
    | some (.count _ _ _) => false
    | some _ => true

@[simp] theorem asked_append (first second : List Entry) :
    asked (first ++ second) = asked first ++ asked second :=
  List.filter_append ..

/-- Apart from the store and from the time, a run with a counter store has come to the same as one
without it. -/
structure Outcome.Matches (waited : Nat) (counted : Outcome (σ × τ) α) (alone : Outcome σ α) :
    Prop where
  ending : counted.ending = alone.ending
  scene : ∃ counts, counted.scene = (alone.scene.later waited).beside counts
  asked : asked counted.trace = asked alone.trace

namespace Outcome.Matches

variable {waited : Nat} {counted : Outcome (σ × τ) α} {alone : Outcome σ α}

theorem elapsed (h : Matches waited counted alone) :
    counted.scene.elapsed = alone.scene.elapsed + waited := by
  obtain ⟨counts, hScene⟩ := h.scene
  rw [hScene]
  rfl

/-- What has nothing counted goes on from matching scenes in the same way. -/
theorem run (counter : Counter τ) (world : World σ) {scene : Scene σ} {p : Program β} (hp : p.CountsNobody) {wide : Scene (σ × τ)}
    (h : ∃ counts, wide = (scene.later waited).beside counts) :
    Matches waited (p.run (countedBy counter world) none wide) (p.run world none scene) := by
  obtain ⟨counts, rfl⟩ := h
  rw [Program.run_countedBy (hp.uncounted world none _), Program.run_later]
  exact ⟨rfl, ⟨counts, rfl⟩, rfl⟩

theorem behind (h : Matches waited counted alone) {before earlier : List Entry}
    (hBefore : Gatehouse.asked before = Gatehouse.asked earlier) :
    Matches waited (counted.behind before) (alone.behind earlier) := by
  refine ⟨h.ending, h.scene, ?_⟩
  rw [behind_trace, behind_trace, asked_append, asked_append, hBefore, h.asked]

end Outcome.Matches

/-! ## The stages without the limiter -/

namespace Pipeline

variable {gate : Gate} {access : Access} {handler : Handler} {request : Http.Request}

end Pipeline

/-! ## Servers with and without the limiter -/

namespace Site

/-- A path, who may use it, and what answers there. No stage stands before a path that has nobody
named. -/
structure Service where
  path : String
  /-- Only `GET` and `HEAD` reach the handler. -/
  isReadOnly : Bool
  access : Option Pipeline.Access
  handler : Handler

/-- The route of a service, behind these stages. -/
def Service.route (stages : Pipeline.Access → Handler → Http.Request → Program Answer)
    (service : Service) : Route :=
  ⟨service.path, service.isReadOnly,
    match service.access with
    | none => unguarded service.handler
    | some access => stages access service.handler⟩

/-- Serves these paths, within a boundary. -/
def serving (stages : Pipeline.Access → Handler → Http.Request → Program Answer)
    (services : List Service) (timeout : Duration) : Server :=
  ⟨services.map (Service.route stages), some timeout⟩

/-- The paths of the application. -/
def services (gate : Gate) : List Service :=
  [⟨"/health", true, none, readOnly health⟩,
   ⟨"/api/v1/tenant", true, some .everyone, readOnly (currentTenant gate)⟩,
   ⟨"/api/v1/me", true, some .bearer, readOnly me⟩]

/-- The application consists of these services behind the pipeline. -/
theorem application_eq (gate : Gate) :
    application gate = (services gate).map (Service.route (Pipeline.apply gate)) := rfl

variable {stages : Pipeline.Access → Handler → Http.Request → Program Answer}
  {services : List Service} {timeout : Duration} {request : Http.Request}

theorem find?_serving (stages : Pipeline.Access → Handler → Http.Request → Program Answer)
    (services : List Service) (timeout : Duration) (request : Http.Request) :
    find? (serving stages services timeout).routes request =
      (services.find? fun service => service.path.toList == request.target.path).map
        (Service.route stages) :=
  List.find?_map ..

/-- How a response is completed depends on where its request leads and on the methods there. -/
theorem complete_congr {first second : Option Route} (hNone : first.isNone = second.isNone)
    (hReadOnly : first.any Route.isReadOnly = second.any Route.isReadOnly)
    (request : Http.Request) (response : Http.Response) :
    complete first request response = complete second request response := by
  unfold complete leadsNowhere addAllow
  rw [hNone, hReadOnly]

namespace Server

variable {server : Server} {scene : Scene σ}

/-- No route sees a request that is too large. -/
theorem receive_of_tooLarge (hTimeout : server.timeout = some timeout)
    (hLarge : isTooLarge request = true) (world : World σ) {patience : Patience}
    (freshId : Bytes) :
    server.receive world patience freshId request scene =
      (.response (complete (find? server.routes request) request
        (addRequestId (requestId request freshId) tooLarge)), scene, []) := by
  simp only [receive, hTimeout, receiveWithin, hLarge, if_true]

end Server

/-! ## What the client is told -/

variable {gate : Gate}

end Site

end Gatehouse
