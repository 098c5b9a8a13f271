import FleetDashboard.Fault
import FleetDashboard.Inventory.Alert
import FleetDashboard.Inventory.Cluster
import FleetDashboard.Inventory.Organization
import FleetDashboard.Kubernetes.Service
import FleetDashboard.Metrics.Sample

/-!
# The world of the dashboard service

Everything the service can ask and what it is told: the inventory, the control
plane of the clusters and the metrics backends.  A world is a record of answers.
It does not change while a request is served.
-/

namespace FleetDashboard

open Calendar Kubernetes Metrics

/-- What the collaborators of the service answer.  A store that fails says why in
words; the other collaborators fail with the error that a client sees. -/
structure World where
  /-- The organization with an id. -/
  organization : String → Except String (Option Organization)
  /-- The clusters of an organization. -/
  clustersOf : String → Except String (List Cluster)
  /-- The cluster with an id. -/
  cluster : String → Except String (Option Cluster)
  /-- The restarts of an organization's pods from one instant up to another. -/
  podRestarts : String → Instant → Instant → Except String (List Alert)
  /-- Whether the services of a cluster can be looked up. -/
  registry : String → Except DashboardError Unit
  /-- The service of a cluster, a namespace and a name. -/
  service : String → String → String → Except DashboardError (Option ServiceEndpoint)
  /-- Whether there is a metrics backend at an address. -/
  connect : String → Except DashboardError Unit
  /-- The answer of the backend at an address to an instant query. -/
  instantQuery : String → String → Except DashboardError (List Sample)
  /-- The answer of the backend at an address to a query over a range, with the
  seconds between its points. -/
  rangeQuery : String → String → Instant → Instant → Nat → Except DashboardError (List Series)
  /-- The namespace of the services that are metrics endpoints. -/
  metricsNamespace : String

/-- A question to a collaborator, as it stands in the log of a session. -/
inductive Call where
  | organization
      (id : String)
  | clustersOf
      (organization : String)
  | cluster
      (id : String)
  | podRestarts
      (organization : String)
      (start finish : Instant)
  | registry
      (cluster : String)
  | service
      (cluster space name : String)
  | connect
      (address : String)
  | instantQuery
      (query : String)
  | rangeQuery
      (query : String)
      (start finish : Instant)
      (step : Nat)
  deriving DecidableEq, Repr

namespace Call

/-- The line of a call in a written log. -/
def line : Call → String
  | organization id => "org " ++ id
  | clustersOf owner => "clusters of " ++ owner
  | cluster id => "cluster " ++ id
  | podRestarts owner start finish =>
      "alerts of " ++ owner ++ " [" ++ Text.intText start.seconds ++ ", " ++
        Text.intText finish.seconds ++ ")"
  | registry id => "registry " ++ id
  | service id space name => "service " ++ id ++ " " ++ space ++ "/" ++ name
  | connect address => "connect " ++ address
  | instantQuery query => "instant " ++ query
  | rangeQuery query start finish step =>
      "range " ++ query ++ " span=" ++ Text.intText (finish.seconds - start.seconds) ++
        " step=" ++ Text.natText step

end Call
end FleetDashboard
