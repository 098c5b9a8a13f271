import FleetDashboard.Chart.Query
import FleetDashboard.Proofs.Chart.Month
import FleetDashboard.Proofs.Service.Origin

/-!
# Which months are shown

A month is shown exactly if the calendar has it and it has begun.  A request that names
no month is never turned down for its month, and one whose parameters are within bounds
only for a month that lies ahead.
-/

namespace FleetDashboard

open Calendar

/-! ## Bounds of a query -/

namespace ChartQuery

theorem complaints_of_validate
    {query : ChartQuery}
    (valid : query.validate = .ok ()) :
    query.complaints = [] := by
  rw [validate] at valid
  split at valid
  · assumption
  · cases valid

/-- The year and the month of a query that is not refused are within bounds. -/
theorem bounds_of_validate
    {query : ChartQuery}
    (valid : query.validate = .ok ()) :
    (∀ year ∈ query.parameters.year, 1970 ≤ year ∧ year ≤ 9999) ∧
      ∀ month ∈ query.parameters.month, 1 ≤ month ∧ month ≤ 12 := by
  have silent := complaints_of_validate valid
  simp only [complaints, List.append_eq_nil_iff, ite_eq_left_iff, ite_eq_right_iff,
    reduceCtorEq, imp_false, Decidable.not_not, isMonthAllowed, isYearAllowed,
    Option.all_eq_true, Bool.and_eq_true, decide_eq_true_eq] at silent
  exact ⟨silent.2, silent.1.2⟩

end ChartQuery

/-! ## The month of a request -/

namespace ChartParameters

variable
  {parameters : ChartParameters}
  {now : Instant}

/-- The current month is always shown. -/
theorem exists_monthWindow_of_unnamed
    (represented : now.date.isRepresented = true)
    (noYear : parameters.year = none)
    (noMonth : parameters.month = none) :
    ∃ window, parameters.monthWindow now = .ok window := by
  rw [monthWindow, noYear, noMonth]
  refine (MonthWindow.exists_request_iff represented).mpr ⟨now.date.month_bounds, ?_, ?_⟩
  · exact .inr ⟨rfl, Nat.le_refl _⟩
  · exact (Date.isRepresented_iff.mp represented).1

/-- Of the months within bounds, those that have begun are shown. -/
theorem exists_monthWindow_iff
    (represented : now.date.isRepresented = true)
    (yearBounds : ∀ year ∈ parameters.year, 1970 ≤ year ∧ year ≤ 9999)
    (monthBounds : ∀ month ∈ parameters.month, 1 ≤ month ∧ month ≤ 12) :
    (∃ window, parameters.monthWindow now = .ok window) ↔
      MonthWindow.HasBegun (parameters.year.getD now.date.year)
        (parameters.month.getD now.date.month) now := by
  have yearOnCalendar : leastYear ≤ parameters.year.getD now.date.year := by
    cases named : parameters.year with
    | none => exact (Date.isRepresented_iff.mp represented).1
    | some year => exact Int.le_trans (by decide) (yearBounds year named).1
  have monthInYear : 1 ≤ parameters.month.getD now.date.month ∧
      parameters.month.getD now.date.month ≤ 12 := by
    cases named : parameters.month with
    | none => exact now.date.month_bounds
    | some month => exact monthBounds month named
  rw [monthWindow, MonthWindow.exists_request_iff represented]
  exact ⟨fun shown => shown.2.1, fun begun => ⟨monthInYear, begun, yearOnCalendar⟩⟩

end ChartParameters

/-! ## Requests for charts -/

/-- No collaborator turns down a period. -/
def World.AcceptsPeriods
    (world : World) : Prop :=
  ∀ backend call reason, world.answer backend call ≠ .error (.invalidRange reason)

/-- Parties of the platform fail for other reasons. -/
theorem Platform.acceptsPeriods
    (platform : Platform) :
    platform.world.AcceptsPeriods := by
  intro backend call reason fails
  cases platform.failsOnly_answer backend call _ fails

/-- A request for charts fails with a range that is invalid only for its month. -/
theorem Dashboard.monthWindow_of_charts_invalidRange
    {organization chartType reason : String}
    {parameters : ChartParameters}
    {now : Instant}
    {world : World}
    {session : Session}
    (accepts : world.AcceptsPeriods)
    (fails : ((charts organization chartType parameters now).run world session).1 =
      .error (.invalidRange reason)) :
    parameters.monthWindow now = .error (.invalidRange reason) := by
  rcases Request.origin_of_stopsInOrder
    (stopsInOrder_charts organization chartType parameters now) fails with
    ⟨backend, call, passedOn⟩ | tenant | unread | ⟨_, _, _, rejected⟩
  · exact absurd passedOn (accepts backend call reason)
  · cases tenant
  · obtain ⟨_, same⟩ := ChartSelection.eq_noData_of_read_error unread
    cases same
  · exact rejected

namespace MonthWindow

/-- Exactly the months of the calendar that have begun are accepted, each with the thirty
days behind its first one.  So a request that names neither year nor month is not turned
down for them, and one whose parameters are within bounds only for a month that lies
ahead. -/
theorem accepts_months_begun
    {now : Instant}
    (represented : now.date.isRepresented = true) :
    (∀ year month,
      ((∃ window, request year month now = .ok window) ↔
        (1 ≤ month ∧ month ≤ 12) ∧
          (year < now.date.year ∨ year = now.date.year ∧ month ≤ now.date.month) ∧
          leastYear ≤ year) ∧
      (∀ fault, request year month now = .error fault →
        ∃ reason, fault = .invalidRange reason) ∧
      (∀ window, request year month now = .ok window →
        ∃ first : Date, (first.year = year ∧ first.month = month ∧ first.dayOfMonth = 1) ∧
          window.start = Instant.midnight first ∧
          window.finish = ⟨window.start.seconds + 30 * 86400, 0⟩) ∧
      ∀ otherYear otherMonth,
        find year month now ≠ .error (.beyondCalendar otherYear otherMonth)) ∧
    (∀ parameters : ChartParameters, parameters.year = none → parameters.month = none →
      (∃ window, parameters.monthWindow now = .ok window) ∧
        ∀ world : World, world.AcceptsPeriods → ∀ organization chartType session reason,
          ((Dashboard.charts organization chartType parameters now).run world session).1 ≠
            .error (.invalidRange reason)) ∧
    (∀ query : ChartQuery, query.validate = .ok () →
      ∀ world : World, world.AcceptsPeriods → ∀ organization session reason,
        ((Dashboard.charts organization query.chartType query.parameters now).run
            world session).1 = .error (.invalidRange reason) →
          now.date.year < query.parameters.year.getD now.date.year ∨
            now.date.year = query.parameters.year.getD now.date.year ∧
              now.date.month < query.parameters.month.getD now.date.month) ∧
    ∀ platform : Platform, platform.world.AcceptsPeriods := by
  refine ⟨?_, ?_, ?_, Platform.acceptsPeriods⟩
  · intro year month
    refine ⟨exists_request_iff represented, ?_, ?_, find_ne_beyondCalendar⟩
    · intro fault refused
      exact eq_invalidRange_of_request_error refused
    · intro window accepted
      obtain ⟨begins, ends⟩ := of_request accepted
      refine ⟨window.first, Date.civil_of_ofCivil? begins, rfl, ?_⟩
      rw [finish, start, ends, Instant.midnight, Instant.midnight_seconds, secondsPerDay]
      refine congrArg (Instant.mk · 0) ?_
      dsimp only
      omega
  · intro parameters noYear noMonth
    have shown := ChartParameters.exists_monthWindow_of_unnamed represented noYear noMonth
    refine ⟨shown, ?_⟩
    intro world accepts organization chartType session reason fails
    obtain ⟨window, accepted⟩ := shown
    rw [Dashboard.monthWindow_of_charts_invalidRange accepts fails] at accepted
    cases accepted
  · intro query valid world accepts organization session reason fails
    obtain ⟨yearBounds, monthBounds⟩ := query.bounds_of_validate valid
    have notBegun : ¬HasBegun (query.parameters.year.getD now.date.year)
        (query.parameters.month.getD now.date.month) now := by
      rw [← ChartParameters.exists_monthWindow_iff represented yearBounds monthBounds]
      rintro ⟨window, accepted⟩
      rw [Dashboard.monthWindow_of_charts_invalidRange accepts fails] at accepted
      cases accepted
    rw [HasBegun] at notBegun
    omega

/-- In January the month before is that of another year; the month after is refused, and
so is a request for its calendar. -/
theorem sample_accepts_months_begun :
    let now : Instant := ⟨1704067199 + 86400, 999999999⟩
    let query : ChartQuery := ⟨" POD_Calendar", ⟨none, none, none, some 2⟩⟩
    let reason := "month 2024-02 is in the future"
    now.date.isRepresented = true ∧
      request 2023 12 now = .ok ⟨⟨19692⟩, ⟨19722⟩⟩ ∧
      (∃ first : Date, (first.year = 2023 ∧ first.month = 12 ∧ first.dayOfMonth = 1) ∧
        Instant.midnight first = ⟨1701388800, 0⟩) ∧
      (∃ window, request leastYear 1 now = .ok window) ∧
      (¬∃ window, request (leastYear - 1) 12 now = .ok window) ∧
      query.validate = .ok () ∧
      ((Dashboard.charts "acme" query.chartType query.parameters now).run World.sample
        (Session.begin 10)).1 = .error (.invalidRange reason) ∧
      now.date.month < query.parameters.month.getD now.date.month := by
  intro now query reason
  have represented : now.date.isRepresented = true := by decide
  have accepted : request 2023 12 now = .ok ⟨⟨19692⟩, ⟨19722⟩⟩ := by decide
  have valid : query.validate = .ok () := by decide
  have refused : ((Dashboard.charts "acme" query.chartType query.parameters now).run
      World.sample (Session.begin 10)).1 = .error (.invalidRange reason) := by decide
  have accepts : World.sample.AcceptsPeriods := by
    intro backend call other fails
    cases call <;> cases fails
  obtain ⟨months, _, queries, _⟩ := accepts_months_begun represented
  obtain ⟨first, named, starts, _⟩ := (months 2023 12).2.2.1 _ accepted
  refine ⟨represented, accepted, ⟨first, named, starts.symm⟩, ?_, ?_, valid, refused, ?_⟩
  · exact (months leastYear 1).1.mpr (by decide)
  · exact fun shown => absurd ((months (leastYear - 1) 12).1.mp shown) (by decide)
  · rcases queries query valid _ accepts _ _ _ refused with later | later
    · exact absurd later (by decide)
    · exact later.2

end MonthWindow
end FleetDashboard
