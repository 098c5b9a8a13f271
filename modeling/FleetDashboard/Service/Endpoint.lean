import FleetDashboard.Service.Session

/-!
# The metrics endpoint of an organization

An organization's metrics are kept in its primary cluster, behind the query
front end if that is deployed and behind the plain query service otherwise.  The
address is cached; failures are not.
-/

namespace FleetDashboard
namespace Endpoint

open Kubernetes

/-- The cache key of an organization's endpoint. -/
def key
    (organization : String) : String :=
  "metrics-endpoint:" ++ organization

/-- The query front end, which is preferred. -/
def preferredService : String := "thanos-query-frontend"

/-- The plain query service. -/
def plainService : String := "thanos-query"

/-- The organization with an id, which must exist. -/
def tenant
    (organization : String) : Request Organization := do
  let found ← Request.demandStored (.organization organization) (·.organization organization)
  match found with
  | some record => pure record
  | none => Request.ofExcept (.error (.tenantNotFound organization))

/-- The primary cluster of an organization, which must be named. -/
def primaryCluster
    (record : Organization)
    (organization : String) : Except DashboardError String :=
  match record.primaryCluster? with
  | some cluster => .ok cluster
  | none =>
      .error (.configuration ("Organization " ++ organization ++ " has no primary cluster"))

/-- The failure when a cluster has none of the services. -/
def noService
    (cluster space : String) : DashboardError :=
  .resolution ("Neither " ++ preferredService ++ " nor " ++ plainService ++ " found in " ++
    cluster ++ "/" ++ space)

/-- Look a service of a cluster up. -/
def lookupService
    (cluster space name : String) : Request (Option ServiceEndpoint) :=
  Request.demand (.service cluster space name) (·.service cluster space name)

/-- The preferred service of a cluster, or the plain one when that is absent. -/
def anyService
    (cluster space : String) : Request ServiceEndpoint := do
  match ← lookupService cluster space preferredService with
  | some endpoint => pure endpoint
  | none =>
      match ← lookupService cluster space plainService with
      | some endpoint => pure endpoint
      | none => Request.ofExcept (.error (noService cluster space))

/-- Find the address of an organization's endpoint out and cache it. -/
def discover
    (organization : String) : Request String := do
  let record ← tenant organization
  let cluster ← Request.ofExcept (primaryCluster record organization)
  Request.demand (.registry cluster) (·.registry cluster)
  let world ← Request.world
  let endpoint ← anyService cluster world.metricsNamespace
  let address ← Request.ofExcept endpoint.address
  Request.remember (key organization) address
  pure address

/-- The address of an organization's endpoint. -/
def resolve
    (organization : String) : Request String := do
  match ← Request.remembered (key organization) with
  | some address => pure address
  | none => discover organization

/-- The address of an organization's metrics backend, which has been reached. -/
def backend
    (organization : String) : Request String := do
  let address ← resolve organization
  Request.demand (.connect address) (·.connect address)
  pure address

end Endpoint
end FleetDashboard
