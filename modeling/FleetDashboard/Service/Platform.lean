import FleetDashboard.Inventory.Snapshot
import FleetDashboard.Kubernetes.ControlPlane
import FleetDashboard.Metrics.Client
import FleetDashboard.Service.World

/-!
# The platform

The world as the server meets it: the inventory in snapshot files, the clusters
behind a control plane, and metrics backends reached over the web.
-/

namespace FleetDashboard

open Calendar Kubernetes Metrics

/-- The parties that the server talks to. -/
structure Platform where
  directory : DataDirectory
  controlPlane : ControlPlane
  /-- What comes of a request to a web address. -/
  exchange : String → Exchange
  metricsNamespace : String

namespace Platform

/-- The data in a backend's answer to a query. -/
def query
    (platform : Platform)
    (address : String)
    (query : MetricsQuery) : Except DashboardError QueryData := do
  let backend ← MetricsBackend.connect address
  backend.ask platform.exchange query

/-- The world that a platform makes up. -/
def world
    (platform : Platform) : World where
  organization id := (platform.directory.organization? id).mapError SnapshotFault.message
  clustersOf organization :=
    (platform.directory.clustersOf organization).mapError SnapshotFault.message
  cluster id := (platform.directory.cluster? id).mapError SnapshotFault.message
  podRestarts organization start finish :=
    (platform.directory.podRestarts organization start finish).mapError SnapshotFault.message
  registry cluster := platform.controlPlane.client cluster
  service cluster space name := platform.controlPlane.endpoint? cluster space name
  connect address := (MetricsBackend.connect address).map fun _ => ()
  instantQuery address expression :=
    (platform.query address (.instant expression)).map QueryData.samples
  rangeQuery address expression start finish step :=
    (platform.query address (.range expression start finish step)).map QueryData.series
  metricsNamespace := platform.metricsNamespace

end Platform
end FleetDashboard
