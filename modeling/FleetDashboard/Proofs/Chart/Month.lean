import FleetDashboard.Chart.Month
import FleetDashboard.Proofs.Calendar.Civil

/-!
# Months that can be shown

A month can be shown once it has begun, if the calendar has it.  Its window begins with
the first of the month and ends thirty days later; that end is always on the calendar.
-/

namespace FleetDashboard
namespace MonthWindow

open Calendar

/-- The month does not lie after the month of an instant. -/
def HasBegun
    (year : Int)
    (month : Nat)
    (now : Instant) : Prop :=
  year < now.date.year ∨ year = now.date.year ∧ month ≤ now.date.month

variable
  {year : Int}
  {month : Nat}
  {now : Instant}

theorem find_eq_ok_iff
    {window : MonthWindow} :
    find year month now = .ok window ↔
      HasBegun year month now ∧ Date.ofCivil? year month 1 = some window.first ∧
        window.last = ⟨window.first.day + 30⟩ := by
  rw [find, HasBegun]
  split
  · rename_i yearAhead
    simp only [reduceCtorEq, false_iff]
    rintro ⟨past | ⟨rfl, _⟩, _⟩
    · exact Int.lt_asymm past yearAhead
    · exact Int.lt_irrefl _ yearAhead
  split
  · rename_i notAhead monthAhead
    obtain ⟨rfl, ahead⟩ := monthAhead
    simp only [reduceCtorEq, Int.lt_irrefl, true_and, false_or, false_iff]
    rintro ⟨begun, _⟩
    exact Nat.not_lt.mpr begun ahead
  rename_i yearNotAhead monthNotAhead
  have begun : year < now.date.year ∨ year = now.date.year ∧ month ≤ now.date.month := by
    omega
  cases begins : Date.ofCivil? year month 1 with
  | none => simp
  | some first =>
      have ends : first.addDays? length = some ⟨first.day + 30⟩ :=
        Date.addDays?_first begins (Nat.le_refl 30)
      simp only [ends, begun, Except.ok.injEq, Option.some.injEq, true_and]
      constructor
      · rintro rfl
        exact ⟨rfl, rfl⟩
      · rintro ⟨rfl, last⟩
        rw [← last]

/-- The last day of a window is on the calendar whenever the first one is. -/
theorem find_ne_beyondCalendar
    (otherYear : Int)
    (otherMonth : Nat) :
    find year month now ≠ .error (.beyondCalendar otherYear otherMonth) := by
  rw [find]
  split
  · nofun
  split
  · nofun
  cases begins : Date.ofCivil? year month 1 with
  | none => nofun
  | some first =>
      have ends : first.addDays? length = some ⟨first.day + 30⟩ :=
        Date.addDays?_first begins (Nat.le_refl 30)
      simp only [ends]
      nofun

theorem request_eq_ok_iff
    {window : MonthWindow} :
    request year month now = .ok window ↔
      HasBegun year month now ∧ Date.ofCivil? year month 1 = some window.first ∧
        window.last = ⟨window.first.day + 30⟩ := by
  rw [← find_eq_ok_iff, request]
  cases find year month now <;> simp [Except.mapError]

/-- The window of a month begins with the first of the month and ends thirty days
later. -/
theorem of_request
    {window : MonthWindow}
    (accepted : request year month now = .ok window) :
    Date.ofCivil? year month 1 = some window.first ∧
      window.last = ⟨window.first.day + 30⟩ :=
  (request_eq_ok_iff.mp accepted).2

/-- A month that is not shown is refused as a range that is invalid. -/
theorem eq_invalidRange_of_request_error
    {fault : DashboardError}
    (refused : request year month now = .error fault) :
    ∃ reason, fault = .invalidRange reason := by
  rw [request] at refused
  cases found : find year month now with
  | error cause =>
      rw [found] at refused
      cases refused
      exact ⟨cause.message, rfl⟩
  | ok window =>
      rw [found] at refused
      cases refused

/-- Exactly the months of the calendar that have begun are shown. -/
theorem exists_request_iff
    (represented : now.date.isRepresented = true) :
    (∃ window, request year month now = .ok window) ↔
      (1 ≤ month ∧ month ≤ 12) ∧ HasBegun year month now ∧ leastYear ≤ year := by
  have lastYear := (Date.isRepresented_iff.mp represented).2
  constructor
  · rintro ⟨window, accepted⟩
    obtain ⟨begun, begins, _⟩ := request_eq_ok_iff.mp accepted
    obtain ⟨⟨⟨notBefore, _⟩, inYear⟩, _⟩ := Date.ofCivil?_first_eq_some_iff.mp begins
    exact ⟨inYear, begun, notBefore⟩
  · rintro ⟨inYear, begun, notBefore⟩
    have notAfter : year ≤ greatestYear := by
      rcases begun with past | ⟨rfl, _⟩
      · omega
      · exact lastYear
    let first : Date := ⟨daysBeforeYear year + daysBeforeMonth (isLeapYear year) month⟩
    refine ⟨⟨first, ⟨first.day + 30⟩⟩, request_eq_ok_iff.mpr ⟨begun, ?_, rfl⟩⟩
    exact Date.ofCivil?_first_eq_some_iff.mpr ⟨⟨⟨notBefore, notAfter⟩, inYear⟩, rfl⟩

end MonthWindow
end FleetDashboard
