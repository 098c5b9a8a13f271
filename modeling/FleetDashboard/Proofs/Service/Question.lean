import FleetDashboard.Proofs.Request.Ensures
import FleetDashboard.Service.Dashboard

/-!
# Questions

All but one kind of call ask a question whose failure ends the request: the answer
is a value, or the error that the client then sees.  Only a failed look-up of a
cluster's name is taken as no answer.  Queries are asked at one backend.
-/

namespace FleetDashboard

open Kubernetes Metrics

/-- What a call asks for. -/
abbrev Call.Answer : Call → Type
  | .organization _ => Option Organization
  | .clustersOf _ => List Cluster
  | .cluster _ => Option Cluster
  | .podRestarts _ _ _ => List Alert
  | .registry _ => Unit
  | .service _ _ _ => Option ServiceEndpoint
  | .connect _ => Unit
  | .instantQuery _ => List Sample
  | .rangeQuery _ _ _ _ => List Series

namespace World

/-- What a store fails with can be told from what a client sees. -/
theorem stored_injective
    {left right : Except String α}
    (same : left.mapError DashboardError.internal = right.mapError DashboardError.internal) :
    left = right := by
  cases left with
  | error reason =>
      cases right with
      | error other => cases same; rfl
      | ok found => cases same
  | ok found =>
      cases right with
      | error reason => cases same
      | ok other => cases same; rfl

/-- What a world answers to a call; queries are asked at `backend`.  The failure of
a store is an internal one. -/
def answer
    (world : World)
    (backend : String) : (call : Call) → Except DashboardError call.Answer
  | .organization id => (world.organization id).mapError .internal
  | .clustersOf organization => (world.clustersOf organization).mapError .internal
  | .cluster id => (world.cluster id).mapError .internal
  | .podRestarts organization start finish =>
      (world.podRestarts organization start finish).mapError .internal
  | .registry cluster => world.registry cluster
  | .service cluster space name => world.service cluster space name
  | .connect address => world.connect address
  | .instantQuery query => world.instantQuery backend query
  | .rangeQuery query start finish step => world.rangeQuery backend query start finish step

/-- The error with which a call fails. -/
def failure?
    (world : World)
    (backend : String)
    (call : Call) : Option DashboardError :=
  match world.answer backend call with
  | .error fault => some fault
  | .ok _ => none

theorem failure?_eq_some_iff
    {world : World}
    {backend : String}
    {call : Call}
    {fault : DashboardError} :
    world.failure? backend call = some fault ↔ world.answer backend call = .error fault := by
  unfold failure?
  cases world.answer backend call <;> simp

theorem failure?_of_ok
    {world : World}
    {backend : String}
    {call : Call}
    {value : call.Answer}
    (answered : world.answer backend call = .ok value) :
    world.failure? backend call = none := by
  rw [failure?, answered]

end World

/-- Ask a question whose failure ends the request. -/
def Request.question
    (backend : String)
    (call : Call) : Request call.Answer :=
  Request.demand call (·.answer backend call)

theorem Request.run_question
    (backend : String)
    (call : Call)
    (world : World)
    (session : Session) :
    (question backend call).run world session =
      (world.answer backend call, session.log call) := rfl

end FleetDashboard
