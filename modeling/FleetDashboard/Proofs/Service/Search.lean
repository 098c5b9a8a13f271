import FleetDashboard.Proofs.Request.Ensures
import FleetDashboard.Proofs.Service.Truth

/-!
# Searching for an endpoint

The discovery of an endpoint is a search, which knows nothing of the cache,
followed by one write.  The search yields an address exactly when the world has
that endpoint.
-/

namespace FleetDashboard

open Kubernetes

namespace Organization

/-- The primary cluster is the recorded id without the blanks around it, unless
nothing remains. -/
theorem primaryCluster?_eq_some_iff
    (organization : Organization)
    (cluster : String) :
    organization.primaryCluster? = some cluster ↔
      ∃ primary, organization.primaryClusterId = some primary ∧
        Text.trim primary = cluster ∧ cluster ≠ "" := by
  simp only [primaryCluster?, Option.filter_eq_some_iff, Option.map_eq_some_iff,
    Bool.not_eq_true', String.isEmpty_eq_false_iff]
  constructor
  · rintro ⟨⟨primary, recorded, trimmed⟩, filled⟩
    exact ⟨primary, recorded, trimmed, filled⟩
  · rintro ⟨primary, recorded, trimmed, filled⟩
    exact ⟨⟨primary, recorded, trimmed⟩, filled⟩

end Organization

namespace Endpoint

theorem address_eq_ok_iff
    (endpoint : ServiceEndpoint)
    (address : String) :
    endpoint.address = .ok address ↔ endpoint.compose = .ok address :=
  mapError_eq_ok_iff

/-- Find the address of an organization's endpoint out. -/
def find
    (organization : String) : Request String := do
  let record ← tenant organization
  let cluster ← Request.ofExcept (primaryCluster record organization)
  Request.demand (.registry cluster) (·.registry cluster)
  let world ← Request.world
  let endpoint ← anyService cluster world.metricsNamespace
  Request.ofExcept endpoint.address

/-- Find the address of the endpoint of an organization that is on record. -/
def locate
    (organization : String)
    (record : Organization) : Request String := do
  let cluster ← Request.ofExcept (primaryCluster record organization)
  Request.demand (.registry cluster) (·.registry cluster)
  let world ← Request.world
  let endpoint ← anyService cluster world.metricsNamespace
  Request.ofExcept endpoint.address

theorem find_eq
    (organization : String) :
    find organization = tenant organization >>= locate organization := rfl

theorem discover_eq
    (organization : String) :
    discover organization =
      find organization >>= fun address =>
        Request.remember (key organization) address >>= fun _ => pure address := by
  simp only [discover, find, bind_assoc]

/-- A cached endpoint is taken as it is, and nobody is asked. -/
theorem run_resolve_of_some
    {organization address : String}
    {session : Session}
    (cached : session.lookup (key organization) = some address)
    (world : World) :
    (resolve organization).run world session = (.ok address, session) := by
  rw [resolve, Request.run_bind, Request.run_remembered, cached]
  rfl

/-- An endpoint that is not cached is searched for. -/
theorem run_resolve_of_none
    {organization : String}
    {session : Session}
    (absent : session.lookup (key organization) = none)
    (world : World) :
    (resolve organization).run world session =
      (find organization >>= fun address =>
        Request.remember (key organization) address >>= fun _ => pure address).run
          world session := by
  rw [resolve, Request.run_bind, Request.run_remembered, absent, ← discover_eq]

theorem primaryCluster_eq_ok_iff
    (record : Organization)
    (organization cluster : String) :
    primaryCluster record organization = .ok cluster ↔ record.primaryCluster? = some cluster := by
  unfold primaryCluster
  cases record.primaryCluster? <;> simp

/-! ## What a search finds -/

section Ensures

variable {world : World} {invariant : Session → Prop}
  (logged : ∀ session call, (∀ address, call ≠ Call.connect address) → invariant session →
    invariant (session.log call))

include logged

theorem ensures_tenant
    (organization : String) :
    Request.Ensures world invariant (tenant organization) fun record =>
      world.organization organization = .ok (some record) := by
  unfold tenant
  refine .bind (.demandStored fun session => logged session _ (by simp)) ?_
  intro found answered
  cases found with
  | none => exact .ofExcept fun _ same => by cases same
  | some record => exact .pure answered

theorem ensures_anyService
    (cluster : String) :
    Request.Ensures world invariant (anyService cluster world.metricsNamespace)
      (world.Offers cluster) := by
  unfold anyService
  refine .bind (.demand fun session => logged session _ (by simp)) ?_
  intro preferred preferredAnswered
  cases preferred with
  | some endpoint => exact .pure (.inl preferredAnswered)
  | none =>
      refine .bind (.demand fun session => logged session _ (by simp)) ?_
      intro plain plainAnswered
      cases plain with
      | some endpoint => exact .pure (.inr ⟨preferredAnswered, plainAnswered⟩)
      | none => exact .ofExcept fun _ same => by cases same

/-- A search keeps what logged calls keep, and finds nothing but an endpoint that
the world has. -/
theorem ensures_find
    (organization : String) :
    Request.Ensures world invariant (find organization) (world.HasEndpoint organization) := by
  unfold find
  refine .bind (ensures_tenant logged organization) ?_
  intro record recorded
  refine .bind (.ofExcept fun cluster => (primaryCluster_eq_ok_iff _ _ _).mp) ?_
  intro cluster named
  obtain ⟨primary, primaryRecorded, rfl, filled⟩ :=
    (record.primaryCluster?_eq_some_iff cluster).mp named
  refine .bind (.demand fun session => logged session _ (by simp)) ?_
  intro _ reachable
  refine .bind .world ?_
  rintro _ rfl
  refine .bind (ensures_anyService logged (Text.trim primary)) ?_
  intro endpoint offered
  refine .ofExcept ?_
  intro address composed
  refine ⟨record, primary, endpoint, recorded, primaryRecorded, filled, reachable, offered, ?_⟩
  exact (address_eq_ok_iff endpoint address).mp composed

end Ensures

/-- One question decides whether there is a tenant. -/
theorem run_tenant
    (organization : String)
    (world : World)
    (session : Session) :
    (tenant organization).run world session =
      (match world.organization organization with
        | .ok (some record) => .ok record
        | .ok none => .error (.tenantNotFound organization)
        | .error reason => .error (.internal reason),
        session.log (.organization organization)) := by
  rw [tenant, Request.run_bind, Request.run_demandStored]
  rcases world.organization organization with reason | _ | record <;> rfl

theorem run_tenant_of_recorded
    {world : World}
    {organization : String}
    {record : Organization}
    (recorded : world.organization organization = .ok (some record))
    (session : Session) :
    (tenant organization).run world session =
      (.ok record, session.log (.organization organization)) := by
  rw [run_tenant, recorded]

theorem run_anyService_of_offers
    {world : World}
    {cluster : String}
    {endpoint : ServiceEndpoint}
    (offers : world.Offers cluster endpoint)
    (session : Session) :
    ((anyService cluster world.metricsNamespace).run world session).1 = .ok endpoint := by
  rw [anyService, Request.run_bind, lookupService, Request.run_demand]
  rcases offers with preferred | ⟨absent, plain⟩
  · rw [preferred]
    rfl
  · rw [absent]
    dsimp only
    rw [Request.run_bind, lookupService, Request.run_demand, plain]
    rfl

/-- A search finds the endpoint that the world has, whatever the session. -/
theorem run_find_of_hasEndpoint
    {world : World}
    {organization address : String}
    (has : world.HasEndpoint organization address)
    (session : Session) :
    ((find organization).run world session).1 = .ok address := by
  obtain ⟨record, primary, endpoint, recorded, primaryRecorded, filled, reachable, offered,
    composed⟩ := has
  have named : primaryCluster record organization = .ok (Text.trim primary) :=
    (primaryCluster_eq_ok_iff _ _ _).mpr
      ((record.primaryCluster?_eq_some_iff _).mpr ⟨primary, primaryRecorded, rfl, filled⟩)
  have addressed : endpoint.address = .ok address :=
    (address_eq_ok_iff endpoint address).mpr composed
  rw [find, Request.run_bind_of_ok (run_tenant_of_recorded recorded session), named,
    Request.run_bind, Request.run_ofExcept]
  dsimp only
  rw [Request.run_bind, Request.run_demand, reachable]
  dsimp only
  rw [Request.run_bind, Request.run_world]
  dsimp only
  generalize (session.log (.organization organization)).log (.registry (Text.trim primary)) = asked
  have served := run_anyService_of_offers offered asked
  rw [Request.run_bind]
  rcases outcome : (anyService (Text.trim primary) world.metricsNamespace).run world asked with
    ⟨result, after⟩
  rw [outcome] at served
  obtain rfl : result = .ok endpoint := served
  exact addressed

end Endpoint
end FleetDashboard
