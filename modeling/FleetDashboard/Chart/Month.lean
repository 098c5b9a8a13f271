import FleetDashboard.Calendar.Instant
import FleetDashboard.Fault
import FleetDashboard.Text.Numeral

/-!
# The month of a calendar chart

A calendar chart counts events for the first of a month and the thirty days that
follow it, whatever the length of the month.  Months that have not begun are
refused; days that have not begun have no count.
-/

namespace FleetDashboard

open Calendar Text

/-- Why a month cannot be shown. -/
inductive MonthFault where
  | futureYear
      (year : Int)
  | futureMonth
      (year : Int)
      (month : Nat)
  | noSuchMonth
      (year : Int)
      (month : Nat)
  | beyondCalendar
      (year : Int)
      (month : Nat)
  deriving DecidableEq, Repr

namespace MonthFault

/-- The wording of a fault. -/
def message : MonthFault → String
  | futureYear year => "year " ++ intText year ++ " is in the future"
  | futureMonth year month =>
      "month " ++ intText year ++ "-" ++ twoDigits month ++ " is in the future"
  | noSuchMonth year month => "invalid month " ++ intText year ++ "-" ++ natText month
  | beyondCalendar year month =>
      "month " ++ intText year ++ "-" ++ natText month ++ " out of range"

end MonthFault

/-- The days that a calendar chart covers. -/
structure MonthWindow where
  first : Date
  last : Date
  deriving DecidableEq, Repr

namespace MonthWindow

/-- Days from the first to the last of a window. -/
def length : Nat := 30

/-- The window of a month, or why it cannot be shown now. -/
def find
    (year : Int)
    (month : Nat)
    (now : Instant) : Except MonthFault MonthWindow :=
  if now.date.year < year then .error (.futureYear year)
  else if year = now.date.year ∧ now.date.month < month then
    .error (.futureMonth year month)
  else
    match Date.ofCivil? year month 1 with
    | none => .error (.noSuchMonth year month)
    | some first =>
        match first.addDays? length with
        | none => .error (.beyondCalendar year month)
        | some last => .ok ⟨first, last⟩

/-- The window of a month, or the failure that a request reports. -/
def request
    (year : Int)
    (month : Nat)
    (now : Instant) : Except DashboardError MonthWindow :=
  (find year month now).mapError fun fault => .invalidRange fault.message

/-- The first instant of a window. -/
def start
    (window : MonthWindow) : Instant :=
  Instant.midnight window.first

/-- The first instant of a window's last day. -/
def finish
    (window : MonthWindow) : Instant :=
  Instant.midnight window.last

/-- The days of a window, the last one included. -/
def days
    (window : MonthWindow) : List Date :=
  (List.range (length + 1)).map fun (offset : Nat) => ⟨window.first.day + offset⟩

@[simp] theorem length_days
    (window : MonthWindow) :
    window.days.length = 31 := by
  simp [days, length]

end MonthWindow

/-- A count of events for every day of a month's window.  A day that has not
begun has none. -/
structure MonthHistogram where
  /-- The first second of each day. -/
  axis : List Int
  counts : List (Option Nat)
  deriving DecidableEq, Repr

namespace MonthHistogram

/-- Count of the events of one day. -/
def eventsOn
    (events : List Instant)
    (day : Date) : Nat :=
  events.countP fun event => event.date == day

/-- The count of a day, once it has begun. -/
def countOn
    (events : List Instant)
    (today day : Date) : Option Nat :=
  if day ≤ today then some (eventsOn events day) else none

/-- The counts of a window's days. -/
def ofWindow
    (window : MonthWindow)
    (events : List Instant)
    (now : Instant) : MonthHistogram where
  axis := window.days.map fun day => (Instant.midnight day).seconds
  counts := window.days.map (countOn events now.date)

/-- The counts of a month, or the failure that a request reports. -/
def request
    (year : Int)
    (month : Nat)
    (events : List Instant)
    (now : Instant) : Except DashboardError MonthHistogram :=
  (MonthWindow.request year month now).map fun window => ofWindow window events now

theorem request_eq_ok
    {year : Int}
    {month : Nat}
    {now : Instant}
    {window : MonthWindow}
    (accepted : MonthWindow.request year month now = .ok window)
    (events : List Instant) :
    request year month events now = .ok (ofWindow window events now) := by
  rw [request, accepted]
  rfl

/-- The cell of a count. -/
def countText : Option Nat → String
  | some count => natText count
  | none => ""

@[simp] theorem length_axis_ofWindow
    (window : MonthWindow)
    (events : List Instant)
    (now : Instant) :
    (ofWindow window events now).axis.length = 31 := by
  simp [ofWindow]

@[simp] theorem length_counts_ofWindow
    (window : MonthWindow)
    (events : List Instant)
    (now : Instant) :
    (ofWindow window events now).counts.length = 31 := by
  simp [ofWindow]

end MonthHistogram
end FleetDashboard
