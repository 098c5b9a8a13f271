import FleetDashboard.Proofs.Service.StageOrder
import FleetDashboard.Service.Platform

/-!
# Where failures come from

A request fails because a collaborator fails it, because its organization has no usable
endpoint, or because its parameters are turned down.  The parties of the platform fail
in a few kinds only.
-/

namespace FleetDashboard

open Metrics

namespace DashboardError

/-- The kinds of failure that the parties of the platform report. -/
def isReported : DashboardError → Bool
  | resolution _ | transport _ | internal _ => true
  | _ => false

/-- The kinds of failure with which a request finds its organization unusable. -/
def concernsTenant : DashboardError → Bool
  | tenantNotFound _ | configuration _ | resolution _ => true
  | _ => false

end DashboardError

/-! ## Results -/

/-- If the result is a failure, then it is one of a kind. -/
def FailsOnly
    (kind : DashboardError → Bool)
    (result : Except DashboardError α) : Prop :=
  ∀ fault, result = .error fault → kind fault = true

namespace FailsOnly

variable {kind : DashboardError → Bool}

theorem bind
    {result : Except DashboardError α}
    {next : α → Except DashboardError β}
    (first : FailsOnly kind result)
    (rest : ∀ value, FailsOnly kind (next value)) :
    FailsOnly kind (result >>= next) := by
  intro fault fails
  cases result with
  | error reported =>
      cases fails
      exact first fault rfl
  | ok value => exact rest value fault fails

theorem map
    {result : Except DashboardError α}
    (first : FailsOnly kind result)
    (shown : α → β) :
    FailsOnly kind (result.map shown) := by
  intro fault fails
  cases result with
  | error reported =>
      cases fails
      exact first fault rfl
  | ok value => cases fails

/-- The failure of a store or of a search is worded as one of that kind. -/
theorem mapError
    {result : Except ε α}
    {word : ε → DashboardError}
    (worded : ∀ reason, kind (word reason) = true) :
    FailsOnly kind (result.mapError word) := by
  intro fault fails
  cases result with
  | error reason =>
      cases fails
      exact worded reason
  | ok value => cases fails

/-- An answer that does not come in time is a failure of transport. -/
theorem within_map
    {awaited : Awaited α}
    {read : α → Except DashboardError β}
    (answered : ∀ answer, FailsOnly kind (read answer))
    (late : ∀ reason, kind (.transport reason) = true)
    (deadline : Nat)
    (what : String) :
    FailsOnly kind ((awaited.map read).within deadline what) := by
  intro fault fails
  cases awaited with
  | never =>
      cases fails
      exact late _
  | after delay answer =>
      rw [Awaited.map, Awaited.within] at fails
      split at fails
      · exact answered answer fault fails
      · cases fails
        exact late _

end FailsOnly

/-! ## The platform -/

namespace Kubernetes

theorem failsOnly_configuration
    (cluster : String)
    (answer : ResourceAnswer Secret) :
    FailsOnly (·.isReported) (Secret.configuration cluster answer) := by
  intro fault fails
  cases answer with
  | failed cause =>
      cases fails
      rfl
  | absent =>
      cases fails
      rfl
  | found secret =>
      rw [Secret.configuration] at fails
      split at fails
      · cases fails
        rfl
      · split at fails <;> cases fails
        rfl

theorem failsOnly_endpointOf
    (space name : String)
    (answer : ResourceAnswer String) :
    FailsOnly (·.isReported) (ControlPlane.endpointOf space name answer) := by
  intro fault fails
  cases answer with
  | failed cause =>
      cases fails
      rfl
  | absent => cases fails
  | found document =>
      rw [ControlPlane.endpointOf] at fails
      split at fails <;> cases fails
      rfl

theorem failsOnly_endpoint
    (plane : ControlPlane)
    (cluster space name : String) :
    FailsOnly (·.isReported) (plane.endpoint? cluster space name) :=
  .within_map (failsOnly_endpointOf space name) (fun _ => rfl) plane.deadline "service lookup"

theorem failsOnly_client
    (plane : ControlPlane)
    (cluster : String) :
    FailsOnly (·.isReported) (plane.client cluster) := by
  apply FailsOnly.bind
  · exact .within_map (failsOnly_configuration cluster) (fun _ => rfl) _ _
  intro configuration fault fails
  split at fails <;> cases fails
  rfl

end Kubernetes

namespace Metrics.MetricsBackend

theorem failsOnly_connect
    (endpoint : String) :
    FailsOnly (·.isReported) (connect endpoint) := by
  intro fault fails
  simp only [connect] at fails
  split at fails <;> cases fails
  rfl

theorem failsOnly_request
    (backend : MetricsBackend)
    (query : MetricsQuery) :
    FailsOnly (·.isReported) (backend.request query) := by
  apply FailsOnly.bind
  · exact .mapError fun _ => rfl
  intro url fault fails
  split at fails
  · cases fails
    rfl
  · split at fails <;> cases fails
    rfl

theorem failsOnly_payload
    (response : QueryResponse) :
    FailsOnly (·.isReported) response.payload := by
  intro fault fails
  rw [QueryResponse.payload] at fails
  split at fails
  · cases fails
    rfl
  · split at fails <;> cases fails
    rfl

theorem failsOnly_dataOf
    (address : String)
    (exchange : Exchange) :
    FailsOnly (·.isReported) (dataOf address exchange) := by
  cases exchange with
  | refused =>
      rintro _ ⟨⟩
      rfl
  | silent =>
      rintro _ ⟨⟩
      rfl
  | answered body =>
      rw [dataOf]
      split
      · exact failsOnly_payload _
      · rintro _ ⟨⟩
        rfl

end Metrics.MetricsBackend

namespace Platform

theorem failsOnly_query
    (platform : Platform)
    (address : String)
    (query : MetricsQuery) :
    FailsOnly (·.isReported) (platform.query address query) := by
  apply FailsOnly.bind (MetricsBackend.failsOnly_connect address)
  intro backend
  apply FailsOnly.bind (backend.failsOnly_request query)
  intro url
  exact MetricsBackend.failsOnly_dataOf url (platform.exchange url)

/-- Every party of the platform that fails reports one of a few kinds of failure. -/
theorem failsOnly_answer
    (platform : Platform)
    (backend : String)
    (call : Call) :
    FailsOnly (·.isReported) (platform.world.answer backend call) := by
  cases call with
  | organization id => exact .mapError fun _ => rfl
  | clustersOf organization => exact .mapError fun _ => rfl
  | cluster id => exact .mapError fun _ => rfl
  | podRestarts organization start finish => exact .mapError fun _ => rfl
  | registry cluster => exact Kubernetes.failsOnly_client platform.controlPlane cluster
  | service cluster space name =>
      exact Kubernetes.failsOnly_endpoint platform.controlPlane cluster space name
  | connect address =>
      simp only [World.answer, world]
      exact (MetricsBackend.failsOnly_connect address).map fun _ => ()
  | instantQuery query =>
      simp only [World.answer, world]
      exact (platform.failsOnly_query backend (.instant query)).map QueryData.samples
  | rangeQuery query start finish step =>
      simp only [World.answer, world]
      exact (platform.failsOnly_query backend (.range query start finish step)).map
        QueryData.series

end Platform

/-! ## Requests -/

/-- What a request is refused for is its organization, unless its parameters are turned
down. -/
theorem World.Refuses.concernsTenant_or
    {world : World}
    {organization : String}
    {rejects : DashboardError → Prop}
    {made : List Call}
    {fault : DashboardError}
    (refuses : world.Refuses organization rejects made fault) :
    fault.concernsTenant = true ∨ rejects fault := by
  cases refuses with
  | tenant => exact .inl rfl
  | primaryCluster _ _ unnamed =>
      rw [Endpoint.primaryCluster] at unnamed
      split at unnamed <;> cases unnamed
      exact .inl rfl
  | noService => exact .inl rfl
  | unusableService _ _ unusable =>
      left
      exact FailsOnly.mapError (fun _ => rfl) fault unusable
  | parameters _ rejection => exact .inr rejection

/-- The failure of a request that stops in order is that of a collaborator, or it is
found in the organization or in the parameters. -/
theorem Request.origin_of_stopsInOrder
    {organization : String}
    {rejects : DashboardError → Prop}
    {request : Request α}
    (stops : request.StopsInOrder organization rejects)
    {world : World}
    {session : Session}
    {fault : DashboardError}
    (fails : (request.run world session).1 = .error fault) :
    (∃ backend call, world.answer backend call = .error fault) ∨
      fault.concernsTenant = true ∨ rejects fault := by
  obtain ⟨backend, made, _, course, _⟩ := stops world session
  have ends := course.ends
  rw [fails] at ends
  cases ends with
  | @fails front call _ _ fatal =>
      refine .inl ⟨backend, call, ?_⟩
      rw [World.fatal?, World.isNameLookup_of_fatal fatal, if_neg Bool.false_ne_true] at fatal
      exact World.failure?_eq_some_iff.mp fatal
  | refused _ refusal => exact .inr refusal.concernsTenant_or

end FleetDashboard
