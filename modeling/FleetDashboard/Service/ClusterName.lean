import FleetDashboard.Service.Session

/-!
# Names of clusters

A series is shown under the name of its cluster.  Names are cached.  A cluster
that is unknown or cannot be looked up is shown under its id, which is not
cached.
-/

namespace FleetDashboard
namespace ClusterName

/-- The cache key of a cluster's name. -/
def key
    (cluster : String) : String :=
  "cluster-name:" ++ cluster

/-- Look the name of a cluster up and cache it. -/
def discover
    (cluster : String) : Request String := do
  match ← Request.ask (.cluster cluster) (·.cluster cluster) with
  | .ok (some record) =>
      Request.remember (key cluster) record.name
      pure record.name
  | _ => pure cluster

/-- The name of a cluster. -/
def resolve
    (cluster : String) : Request String := do
  match ← Request.remembered (key cluster) with
  | some name => pure name
  | none => discover cluster

/-- The name under which a series is shown. -/
def ofSeries
    (series : Metrics.Series) : Request String :=
  match series.cluster? with
  | some cluster => resolve cluster
  | none => pure ""

end ClusterName
end FleetDashboard
