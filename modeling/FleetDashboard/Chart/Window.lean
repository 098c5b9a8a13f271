import FleetDashboard.Text.Blank

/-!
# The window of a range chart

How far back a chart reaches and how far its points lie apart.  Each is named by
a label; a label that names nothing gives the default, so every pair of labels
names a window.
-/

namespace FleetDashboard

/-- A span of time that a label can name. -/
inductive ChartSpan where
  | hour
  | day
  | week
  | thirtyDays
  deriving DecidableEq, Repr

namespace ChartSpan

/-- The label of a span. -/
def label : ChartSpan → String
  | hour => "1h"
  | day => "1d"
  | week => "7d"
  | thirtyDays => "30d"

/-- The length of a span. -/
def seconds : ChartSpan → Nat
  | hour => 3600
  | day => 86400
  | week => 7 * 86400
  | thirtyDays => 30 * 86400

end ChartSpan

/-- The window of a range chart. -/
structure RangeWindow where
  /-- How far back the chart reaches. -/
  duration : ChartSpan
  /-- How far its points lie apart. -/
  interval : ChartSpan
  deriving DecidableEq, Repr

namespace RangeWindow

/-- The span that a duration's label names; a day by default. -/
def readDuration
    (label : Option String) : ChartSpan :=
  match label.map Text.trim with
  | some "1h" => .hour
  | some "7d" => .week
  | some "30d" => .thirtyDays
  | _ => .day

/-- The span that an interval's label names; an hour by default.  A week may
also be called "7h". -/
def readInterval
    (label : Option String) : ChartSpan :=
  match label.map Text.trim with
  | some "1d" => .day
  | some "7d" => .week
  | some "7h" => .week
  | _ => .hour

/-- The window that two labels name. -/
def ofLabels
    (duration interval : Option String) : RangeWindow :=
  ⟨readDuration duration, readInterval interval⟩

end RangeWindow
end FleetDashboard
