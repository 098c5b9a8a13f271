import FleetDashboard.Inventory.Cluster
import FleetDashboard.Stack.Utilization

/-!
# Stack summaries

The card of a cluster with its utilization, the order in which cards are shown,
and the totals of an organization.
-/

namespace FleetDashboard

open Calendar

/-- The card of a cluster. -/
structure StackSummary where
  id : String
  name : String
  description : String
  status : ClusterStatus
  createdAt : Instant
  cpu : String
  memory : String
  storage : String
  deriving DecidableEq, Repr

namespace StackSummary

/-- A share with its unit; an unknown share stays empty. -/
def withUnit
    (share : String) : String :=
  if share.isEmpty then share else share ++ " %"

/-- The card of a cluster with a utilization. -/
def ofCluster
    (cluster : Cluster)
    (utilization : StackUtilization) : StackSummary where
  id := cluster.id
  name := cluster.name
  description := cluster.description
  status := cluster.status
  createdAt := cluster.createdAt
  cpu := withUnit utilization.cpu
  memory := withUnit utilization.memory
  storage := withUnit utilization.disk

/-- The cluster of a card is running. -/
def isRunning
    (summary : StackSummary) : Bool :=
  summary.status == .running

/-- Cards in the order in which they are shown: those of running clusters, then
the others, each group in its own order. -/
def runningFirst
    (summaries : List StackSummary) : List StackSummary :=
  summaries.filter isRunning ++ summaries.filter fun summary => !summary.isRunning

/-- The cards of clusters, given the samples of their utilization. -/
def ofSamples
    (clusters : List Cluster)
    (memoryDisk cpu : List Metrics.Sample) : List StackSummary :=
  runningFirst <| clusters.map fun cluster =>
    ofCluster cluster (.ofSamples cluster.id memoryDisk cpu)

/-- The shown form of a card. -/
def toJson
    (summary : StackSummary) : Json :=
  .record
    [("id", .text summary.id),
      ("name", .text summary.name),
      ("description", .text summary.description),
      ("status", .text summary.status.name),
      ("createdAt", .text (Timestamp.write summary.createdAt)),
      ("cpu", .text summary.cpu),
      ("memory", .text summary.memory),
      ("storage", .text summary.storage)]

end StackSummary

/-- The totals of an organization. -/
structure ResourceTotals where
  stackCount : Nat
  capacity : Capacity
  deriving DecidableEq, Repr

namespace ResourceTotals

/-- A cluster counts until it is deleted. -/
def counts
    (cluster : Cluster) : Bool :=
  cluster.status != .deleted

/-- The totals of clusters, given the samples of what they offer. -/
def ofSamples
    (clusters : List Cluster)
    (cpu memory storage : List Metrics.Sample) : ResourceTotals :=
  ⟨clusters.countP counts, .ofSamples cpu memory storage⟩

/-- The shown form of totals. -/
def toJson
    (totals : ResourceTotals) : Json :=
  .record
    [("stackCount", .nat totals.stackCount),
      ("cpuCores", .nat totals.capacity.cpuCores),
      ("memoryGb", .nat totals.capacity.memoryGigabytes),
      ("storageGb", .nat totals.capacity.storageGigabytes)]

end ResourceTotals
end FleetDashboard
