import FleetDashboard.Chart.Alignment
import FleetDashboard.Chart.Basic
import FleetDashboard.Chart.Month
import FleetDashboard.Chart.Query
import FleetDashboard.Service.ClusterName
import FleetDashboard.Service.Endpoint
import FleetDashboard.Stack.Summary

/-!
# The dashboard of an organization

The three requests that a dashboard makes: charts of the selected kinds, the
cards of all stacks, and the totals of the organization.  Each reaches the
metrics backend before it asks anything else, and the first failure ends it.
-/

namespace FleetDashboard
namespace Dashboard

open Calendar Metrics

/-- Samples of memory and disk space of every cluster. -/
def memoryDiskQuery : String :=
  "sum by (__name__, taco_cluster) (\x7b__name__=~\"node_memory_MemFree_bytes|" ++
    "machine_memory_bytes|kubelet_volume_stats_used_bytes|" ++
    "kubelet_volume_stats_capacity_bytes\"\x7d)"

/-- Samples of the load of every cluster. -/
def loadQuery : String :=
  "avg by (taco_cluster) (instance:node_cpu:ratio*100)"

/-- Samples of the processors of every cluster. -/
def coresQuery : String :=
  "sum by (taco_cluster) (machine_cpu_cores)"

/-- Samples of the memory of every cluster. -/
def memoryQuery : String :=
  "sum by (taco_cluster) (machine_memory_bytes)"

/-- Samples of the disk space of every cluster. -/
def storageQuery : String :=
  "sum by (taco_cluster) (kubelet_volume_stats_capacity_bytes)"

/-- Ask a backend an instant query. -/
def instantQuery
    (backend query : String) : Request (List Sample) :=
  Request.demand (.instantQuery query) (·.instantQuery backend query)

/-- A chart of the series of a query. -/
def rangeChart
    (organization backend : String)
    (window : RangeWindow)
    (now : Instant)
    (kind : ChartKind)
    (query : String)
    (percentage : Bool) : Request Chart := do
  let start := now.secondsBefore window.duration.seconds
  let step := window.interval.seconds
  let series ← Request.demand (.rangeQuery query start now step)
    (·.rangeQuery backend query start now step)
  let alignment := Alignment.ofSeries series percentage
  let names ← series.mapM ClusterName.ofSeries
  pure
    { kind := kind
      organization := organization
      window := .range window
      axis := alignment.axis
      series := List.zipWith ChartSeries.mk names alignment.rows
      updatedAt := now }

/-- The chart of a month that shows these counts. -/
def calendarOf
    (organization : String)
    (year : Int)
    (month : Nat)
    (now : Instant)
    (kind : ChartKind)
    (histogram : MonthHistogram) : Chart where
  kind := kind
  organization := organization
  window := .calendar year month
  axis := histogram.axis
  series := [⟨Chart.calendarSeries, histogram.counts.map MonthHistogram.countText⟩]
  updatedAt := now

/-- A chart of the restarts of pods in a month. -/
def calendarChart
    (organization : String)
    (year : Int)
    (month : Nat)
    (now : Instant)
    (kind : ChartKind) : Request Chart := do
  let window ← Request.ofExcept (MonthWindow.request year month now)
  let alerts ← Request.demandStored (.podRestarts organization window.start window.finish)
    (·.podRestarts organization window.start window.finish)
  let histogram ← Request.ofExcept
    (MonthHistogram.request year month (alerts.map Alert.createdAt) now)
  pure (calendarOf organization year month now kind histogram)

/-- The month is checked again for the counts, and passes as it did before. -/
theorem calendarChart_eq
    (organization : String)
    (year : Int)
    (month : Nat)
    (now : Instant)
    (kind : ChartKind) :
    calendarChart organization year month now kind = (do
      let window ← Request.ofExcept (MonthWindow.request year month now)
      let alerts ← Request.demandStored (.podRestarts organization window.start window.finish)
        (·.podRestarts organization window.start window.finish)
      pure (calendarOf organization year month now kind
        (MonthHistogram.ofWindow window (alerts.map Alert.createdAt) now))) := by
  funext world session
  change (calendarChart organization year month now kind).run world session = Request.run _ _ _
  rw [calendarChart, Request.run_bind, Request.run_bind, Request.run_ofExcept]
  cases accepted : MonthWindow.request year month now with
  | error fault => rfl
  | ok window =>
      simp only [MonthHistogram.request_eq_ok accepted]
      rfl

/-- A chart of one kind.  A month that is not named is the current one. -/
def chart
    (organization backend : String)
    (parameters : ChartParameters)
    (now : Instant)
    (kind : ChartKind) : Request Chart :=
  match kind.shape with
  | .range query percentage =>
      rangeChart organization backend
        (RangeWindow.ofLabels parameters.duration parameters.interval) now kind query percentage
  | .calendar =>
      calendarChart organization (parameters.year.getD now.date.year)
        (parameters.month.getD now.date.month) now kind

/-- The charts of the selected kinds, in the order of display. -/
def charts
    (organization chartType : String)
    (parameters : ChartParameters)
    (now : Instant) : Request (List Chart) := do
  let selection ← Request.ofExcept (ChartSelection.read chartType)
  let _ ← Endpoint.tenant organization
  let backend ← Endpoint.backend organization
  selection.kinds.mapM (chart organization backend parameters now)

/-- The clusters of an organization. -/
def clusters
    (organization : String) : Request (List Cluster) :=
  Request.demandStored (.clustersOf organization) (·.clustersOf organization)

/-- The cards of an organization's clusters. -/
def summaries
    (organization : String) : Request (List StackSummary) := do
  let backend ← Endpoint.backend organization
  let clusters ← clusters organization
  let memoryDisk ← instantQuery backend memoryDiskQuery
  let load ← instantQuery backend loadQuery
  pure (StackSummary.ofSamples clusters memoryDisk load)

/-- The totals of an organization. -/
def resources
    (organization : String) : Request ResourceTotals := do
  let backend ← Endpoint.backend organization
  let clusters ← clusters organization
  let cores ← instantQuery backend coresQuery
  let memory ← instantQuery backend memoryQuery
  let storage ← instantQuery backend storageQuery
  pure (ResourceTotals.ofSamples clusters cores memory storage)

end Dashboard
end FleetDashboard
