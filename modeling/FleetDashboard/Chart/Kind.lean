import FleetDashboard.Fault
import FleetDashboard.Text.Blank

/-!
# Chart kinds

The kinds of chart that a dashboard shows, what each of them draws, and the
selection of kinds that a request names.
-/

namespace FleetDashboard

/-- A kind of chart. -/
inductive ChartKind where
  | cpu
  | memory
  | pod
  | traffic
  | podCalendar
  deriving DecidableEq, Repr

/-- What a chart draws. -/
inductive ChartShape where
  /-- The series of a query over a range of time.  Percentages are the query's
  fractions times one hundred. -/
  | range
      (query : String)
      (percentage : Bool)
  /-- A count of events for every day of a month. -/
  | calendar
  deriving DecidableEq, Repr

namespace ChartKind

/-- Every kind, in the order in which a dashboard shows them. -/
def all : List ChartKind :=
  [cpu, memory, pod, traffic, podCalendar]

/-- The name of a kind in requests and replies. -/
def name : ChartKind → String
  | cpu => "cpu"
  | memory => "memory"
  | pod => "pod"
  | traffic => "traffic"
  | podCalendar => "pod_calendar"

/-- What a chart of a kind tells its reader. -/
def description : ChartKind → String
  | cpu => "Average CPU usage per stack (%)"
  | memory => "Average memory usage per stack (%)"
  | pod => "Pod restarts per stack"
  | traffic => "Inbound network traffic per stack (bytes/s)"
  | podCalendar => "Pod restarts per day"

/-- The share of time that processors are busy. -/
def cpuQuery : String :=
  "avg by (taco_cluster) (1-rate(node_cpu_seconds_total\x7bmode=\"idle\"\x7d[1h]))"

/-- The share of memory that is in use. -/
def memoryQuery : String :=
  "avg by (taco_cluster) (sum(node_memory_MemTotal_bytes - " ++
    "node_memory_MemAvailable_bytes) by (taco_cluster) / " ++
    "sum(node_memory_MemTotal_bytes) by (taco_cluster))"

/-- Restarts of containers outside the system namespace. -/
def podQuery : String :=
  "avg by (taco_cluster) (increase(kube_pod_container_status_restarts_total" ++
    "\x7bnamespace!=\"kube-system\"\x7d[1h]))"

/-- Bytes that containers receive per second. -/
def trafficQuery : String :=
  "avg by (taco_cluster) (rate(container_network_receive_bytes_total[1h]))"

/-- What a chart of a kind draws. -/
def shape : ChartKind → ChartShape
  | cpu => .range cpuQuery true
  | memory => .range memoryQuery true
  | pod => .range podQuery false
  | traffic => .range trafficQuery false
  | podCalendar => .calendar

@[simp] theorem mem_all
    (kind : ChartKind) :
    kind ∈ all := by
  cases kind <;> simp [all]

end ChartKind

/-- The kinds that a request asks for. -/
inductive ChartSelection where
  | all
  | single
      (kind : ChartKind)
  deriving DecidableEq, Repr

namespace ChartSelection

/-- The selected kinds, in the order of display. -/
def kinds : ChartSelection → List ChartKind
  | all => ChartKind.all
  | single kind => [kind]

/-- A text in lower case as far as its ASCII letters are concerned. -/
def lowered
    (text : String) : String :=
  String.ofList (text.toList.map Char.toLower)

/-- Read a selection: the word for all kinds or the name of one.  Blanks around
it and the case of its letters do not count. -/
def read
    (raw : String) : Except DashboardError ChartSelection :=
  let name := lowered (Text.trim raw)
  if name = "all" then .ok all
  else
    match ChartKind.all.find? fun kind => kind.name == name with
    | some kind => .ok (single kind)
    | none => .error (.noData ("unknown chart type '" ++ raw ++ "'"))

@[simp] theorem kinds_all : kinds all = ChartKind.all := rfl

@[simp] theorem kinds_single
    (kind : ChartKind) :
    kinds (single kind) = [kind] := rfl

end ChartSelection
end FleetDashboard
