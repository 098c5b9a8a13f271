import FleetDashboard.Proofs.Chart.Month
import FleetDashboard.Service.Dashboard
import FleetDashboard.Service.Platform

/-!
# The calendar of alerts on record

A calendar chart counts alerts that were cut out of the recorded ones, sorted and
read as instants.  Nothing is lost or counted twice on the way: each day but the
last shows the number of recorded restarts on that day.  The span that is cut out
ends where the last day begins, so that day never shows a restart.
-/

namespace FleetDashboard

open Calendar

/-! ## Days and instants -/

namespace Calendar.Instant

theorem midnight_le_iff
    (day : Date)
    (instant : Instant) :
    midnight day ≤ instant ↔ day ≤ instant.date := by
  simp only [le_iff, Date.le_iff, midnight, date, secondsPerDay]
  omega

theorem lt_midnight_iff
    (instant : Instant)
    (day : Date) :
    instant < midnight day ↔ instant.date < day := by
  simp only [lt_iff, Date.lt_iff, midnight, date, secondsPerDay]
  omega

end Calendar.Instant

/-! ## Counting recorded restarts -/

namespace Alert

/-- The alert reports restarts of an organization's pods on a day. -/
def isPodRestartOn
    (organization : String)
    (day : Date)
    (alert : Alert) : Bool :=
  alert.organization == organization && alert.name == podRestart &&
    alert.createdAt.date == day

/-- Cutting a span out of the recorded alerts and sorting it changes no count of a
day: all restarts of the day count if it lies in the span, and none otherwise. -/
theorem eventsOn_podRestarts
    (alerts : List Alert)
    (organization : String)
    (first last day : Date) :
    MonthHistogram.eventsOn
        ((podRestarts alerts organization (.midnight first) (.midnight last)).map createdAt) day =
      if first ≤ day ∧ day < last then alerts.countP (isPodRestartOn organization day) else 0 := by
  have sorted := List.mergeSort_perm
    (alerts.filter (isPodRestart organization (.midnight first) (.midnight last))) isNoLater
  rw [MonthHistogram.eventsOn, podRestarts, List.countP_map, sorted.countP_eq, List.countP_filter]
  split
  · rename_i inside
    refine List.countP_congr ?_
    intro alert _
    simp only [Function.comp_apply, isPodRestart, isPodRestartOn, Bool.and_eq_true, beq_iff_eq,
      decide_eq_true_eq, Instant.midnight_le_iff, Instant.lt_midnight_iff]
    constructor
    · rintro ⟨rfl, ⟨same, _⟩, _⟩
      exact ⟨same, rfl⟩
    · rintro ⟨same, rfl⟩
      exact ⟨rfl, ⟨same, inside.1⟩, inside.2⟩
  · rename_i outside
    refine List.countP_eq_zero.mpr ?_
    intro alert _
    simp only [Function.comp_apply, isPodRestart, Bool.and_eq_true, beq_iff_eq,
      decide_eq_true_eq, Instant.midnight_le_iff, Instant.lt_midnight_iff]
    rintro ⟨rfl, ⟨_, notBefore⟩, before⟩
    exact outside ⟨notBefore, before⟩

/-- What a calendar that begins at `first` shows of recorded alerts for the day
that lies `offset` days later. -/
def dayText
    (alerts : List Alert)
    (organization : String)
    (first today : Date)
    (offset : Nat) : String :=
  let day : Date := ⟨first.day + offset⟩
  if today < day then ""
  else if offset = 30 then "0"
  else Text.natText (alerts.countP (isPodRestartOn organization day))

end Alert

/-- The cells of a calendar chart over recorded alerts. -/
theorem MonthHistogram.texts_of_podRestarts
    (alerts : List Alert)
    (organization : String)
    {window : MonthWindow}
    (ends : window.last = ⟨window.first.day + 30⟩)
    (now : Instant) :
    (ofWindow window
        ((Alert.podRestarts alerts organization window.start window.finish).map
          Alert.createdAt) now).counts.map countText =
      (List.range 31).map (Alert.dayText alerts organization window.first now.date) := by
  rw [ofWindow, MonthWindow.days, List.map_map, List.map_map]
  refine List.map_congr_left ?_
  intro offset member
  have bounded : offset < 31 := List.mem_range.mp member
  simp only [Function.comp_apply, countOn, MonthWindow.start, MonthWindow.finish,
    Alert.eventsOn_podRestarts, ends, Alert.dayText, Date.le_iff, Date.lt_iff]
  by_cases begun : window.first.day + (offset : Nat) ≤ now.date.day
  · rw [if_pos begun, if_neg (Int.not_lt.mpr begun), countText]
    by_cases last : offset = 30
    · rw [if_pos last, if_neg (by omega)]
      rfl
    · rw [if_neg last, if_pos (by omega)]
  · rw [if_neg begun, if_pos (Int.not_le.mp begun), countText]

namespace Dashboard

/-- Over alerts on record a calendar chart always succeeds.  It shows thirty-one
days from the first of its month on: the days that have not begun are blank, the
last day has no restart, and every other day has those recorded for it. -/
theorem run_calendar_of_records
    {platform : Platform}
    {alerts : List Alert}
    (onRecord : platform.directory.allAlerts = .ok alerts)
    (organization backend : String)
    (parameters : ChartParameters)
    {now : Instant}
    {window : MonthWindow}
    (accepted : MonthWindow.request (parameters.year.getD now.date.year)
      (parameters.month.getD now.date.month) now = .ok window)
    (session : Session) :
    ∃ first,
      Date.ofCivil? (parameters.year.getD now.date.year)
          (parameters.month.getD now.date.month) 1 = some first ∧
        (chart organization backend parameters now .podCalendar).run platform.world session =
          (.ok
            { kind := .podCalendar
              organization := organization
              window := .calendar (parameters.year.getD now.date.year)
                (parameters.month.getD now.date.month)
              axis := (List.range 31).map fun (offset : Nat) =>
                (Instant.midnight ⟨first.day + offset⟩).seconds
              series := [⟨"podRestartCount", (List.range 31).map
                (Alert.dayText alerts organization first now.date)⟩]
              updatedAt := now },
            session.log (.podRestarts organization (.midnight first)
              (.midnight ⟨first.day + 30⟩))) := by
  obtain ⟨begins, ends⟩ := MonthWindow.of_request accepted
  have found : platform.world.podRestarts organization window.start window.finish =
      .ok (Alert.podRestarts alerts organization window.start window.finish) := by
    change ((platform.directory.allAlerts).map _).mapError _ = _
    rw [onRecord]
    rfl
  refine ⟨window.first, begins, ?_⟩
  change (calendarChart organization _ _ now .podCalendar).run platform.world session = _
  rw [calendarChart_eq, accepted, Request.run_bind, Request.run_ofExcept]
  dsimp only
  rw [Request.run_bind_of_ok (Request.run_demandStored_of_ok found session), Request.run_pure]
  simp only [calendarOf, MonthHistogram.texts_of_podRestarts _ _ ends]
  rw [MonthWindow.finish, ends]
  rfl

end Dashboard

/-- Two restarts on record: one in a leap second that ends a twenty-ninth of
February, one as the last day of that month's calendar begins. -/
def Platform.sample : Platform where
  directory :=
    { path := "data"
      organizations := .absent
      clusters := .absent
      alerts := .bytes <| String.toUTF8
        ("[\x7b\"id\":\"a1\",\"organizationId\":\"acme\",\"name\":\"pod-restart-frequently\"," ++
          "\"createdAt\":\"2024-02-29T23:59:60Z\"\x7d," ++
          "[\"a2\",\"acme\",\"c1\",\"pod-restart-frequently\",\"2024-03-02T00:00:00Z\"]]")
        |>.data.toList }
  controlPlane := ⟨0, fun _ => .never, fun _ => none, fun _ _ _ => .never⟩
  exchange := fun _ => .refused
  metricsNamespace := "lma"

/-- The leap second counts for its day, and the restart on the last day does not
count although that day has begun. -/
theorem Dashboard.sample_calendar_of_records :
    ∃ alerts,
      Platform.sample.directory.allAlerts = .ok alerts ∧
        MonthWindow.request 2024 2 ⟨1710000000, 0⟩ = .ok ⟨⟨19754⟩, ⟨19784⟩⟩ ∧
        alerts.map (fun alert => alert.createdAt.date.day - 19754) = [28, 30] ∧
        ∃ calendar,
          ((chart "acme" "" ⟨none, none, some 2024, some 2⟩ ⟨1710000000, 0⟩ .podCalendar).run
              Platform.sample.world (.begin 0)).1 = .ok calendar ∧
            calendar.series = [⟨"podRestartCount", List.replicate 28 "0" ++ ["1", "0", "0"]⟩] := by
  have read : Platform.sample.directory.allAlerts.toOption =
      some [⟨"a1", "acme", "", "pod-restart-frequently", ⟨1709251199, 1000000000⟩⟩,
        ⟨"a2", "acme", "c1", "pod-restart-frequently", ⟨1709337600, 0⟩⟩] := by
    decide +kernel
  cases onRecord : Platform.sample.directory.allAlerts with
  | error fault => rw [onRecord] at read; cases read
  | ok alerts =>
      rw [onRecord] at read
      cases read
      have accepted : MonthWindow.request 2024 2 ⟨1710000000, 0⟩ = .ok ⟨⟨19754⟩, ⟨19784⟩⟩ := rfl
      obtain ⟨first, begins, runs⟩ := run_calendar_of_records onRecord "acme" ""
        ⟨none, none, some 2024, some 2⟩ accepted (.begin 0)
      obtain rfl : ⟨19754⟩ = first := Option.some.inj begins
      refine ⟨_, rfl, accepted, by decide, _, congrArg Prod.fst runs, ?_⟩
      decide +kernel

end FleetDashboard
