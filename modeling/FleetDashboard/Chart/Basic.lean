import FleetDashboard.Calendar.Timestamp
import FleetDashboard.Chart.Kind
import FleetDashboard.Chart.Window
import FleetDashboard.Json.Basic

/-!
# Charts

A chart as it is shown: its kind, the window of time it covers, an axis of
seconds and named series with one cell per second.
-/

namespace FleetDashboard

open Calendar Text

/-- The time that a chart covers. -/
inductive ChartWindow where
  | range
      (window : RangeWindow)
  | calendar
      (year : Int)
      (month : Nat)
  deriving DecidableEq, Repr

/-- A named series of a chart. -/
structure ChartSeries where
  name : String
  cells : List String
  deriving DecidableEq, Repr

/-- A chart of an organization. -/
structure Chart where
  kind : ChartKind
  organization : String
  window : ChartWindow
  axis : List Int
  series : List ChartSeries
  updatedAt : Instant
  deriving DecidableEq, Repr

namespace ChartWindow

/-- The members that show a window: one pair or the other. -/
def members : ChartWindow → List (String × Json)
  | range window =>
      [("duration", .text window.duration.label), ("interval", .text window.interval.label)]
  | calendar year month => [("year", .int year), ("month", .nat month)]

end ChartWindow

namespace ChartSeries

/-- The shown form of a series. -/
def toJson
    (series : ChartSeries) : Json :=
  .record [("name", .text series.name), ("data", .array (series.cells.map Json.text))]

end ChartSeries

namespace Chart

/-- The name of the series of a calendar chart. -/
def calendarSeries : String := "podRestartCount"

/-- The shown form of a chart. -/
def toJson
    (chart : Chart) : Json :=
  .record <|
    [("chartType", .text chart.kind.name),
      ("organizationId", .text chart.organization),
      ("name", .text chart.kind.name),
      ("description", .text chart.kind.description)] ++
    chart.window.members ++
    [("chartData", .record
        [("xAxis", .record
            [("data", .array (chart.axis.map fun moment => Json.text (intText moment)))]),
          ("series", .array (chart.series.map ChartSeries.toJson))]),
      ("updatedAt", .text (Timestamp.write chart.updatedAt))]

end Chart
end FleetDashboard
