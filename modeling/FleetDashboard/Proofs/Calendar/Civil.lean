import FleetDashboard.Calendar.Instant
import Mathlib.Tactic.IntervalCases

/-!
# Dates and their civil names

Every day lies in exactly one year, month and day of the month, and these name it
again.  The first days of the years grow with the years, so a date is represented
exactly when its year is.
-/

namespace FleetDashboard
namespace Calendar

/-! ## Years -/

theorem daysBeforeYear_succ
    (year : Int) :
    daysBeforeYear (year + 1) =
      daysBeforeYear year + daysBeforeMonth (isLeapYear year) 13 := by
  simp only [daysBeforeYear, daysBeforeMonth, isLeapYear]
  by_cases fourth : year % 4 = 0 <;> by_cases hundredth : year % 100 = 0 <;>
    by_cases fourHundredth : year % 400 = 0 <;>
    simp [fourth, hundredth, fourHundredth] <;> omega

theorem daysBeforeYear_le
    {left right : Int}
    (le : left ≤ right) :
    daysBeforeYear left ≤ daysBeforeYear right := by
  rcases Int.le_iff_eq_or_lt.mp le with rfl | lt
  · exact Int.le_refl _
  · simp only [daysBeforeYear]
    omega

/-- The year of a day begins no later than the day, and the next one after it. -/
theorem yearOfDay_spec
    (day : Int) :
    daysBeforeYear (yearOfDay day) ≤ day ∧ day < daysBeforeYear (yearOfDay day + 1) := by
  simp only [yearOfDay]
  split
  · simp only [daysBeforeYear] at *
    omega
  · split <;>
    · simp only [daysBeforeYear] at *
      omega

theorem le_yearOfDay_iff
    {year day : Int} :
    year ≤ yearOfDay day ↔ daysBeforeYear year ≤ day := by
  obtain ⟨begins, ends⟩ := yearOfDay_spec day
  constructor
  · intro le
    exact Int.le_trans (daysBeforeYear_le le) begins
  · intro le
    by_contra later
    have next : daysBeforeYear (yearOfDay day + 1) ≤ daysBeforeYear year :=
      daysBeforeYear_le (by omega)
    omega

/-! ## Months -/

/-- From the first of a month to the end of its year there are at least the days of
December. -/
theorem daysBeforeMonth_add_le
    (leap : Bool)
    {month : Nat}
    (positive : 1 ≤ month)
    (inYear : month ≤ 12) :
    daysBeforeMonth leap month + 31 ≤ daysBeforeMonth leap 13 := by
  interval_cases month <;> cases leap <;> decide

theorem daysInMonth_bounds
    (leap : Bool)
    {month : Nat}
    (positive : 1 ≤ month)
    (inYear : month ≤ 12) :
    1 ≤ daysInMonth leap month ∧ daysInMonth leap month ≤ 31 := by
  interval_cases month <;> cases leap <;> decide

theorem monthOfYearDay_bounds
    (leap : Bool)
    (yearDay : Nat) :
    1 ≤ monthOfYearDay leap yearDay ∧ monthOfYearDay leap yearDay ≤ 12 := by
  fun_cases monthOfYearDay leap yearDay <;> decide

/-- The month of a day of a year begins no later than the day, and the next one after
it. -/
theorem monthOfYearDay_spec
    {leap : Bool}
    {yearDay : Nat}
    (inYear : yearDay < daysBeforeMonth leap 13) :
    daysBeforeMonth leap (monthOfYearDay leap yearDay) ≤ yearDay ∧
      yearDay < daysBeforeMonth leap (monthOfYearDay leap yearDay + 1) := by
  have january : daysBeforeMonth leap 1 = 0 := rfl
  fun_cases monthOfYearDay leap yearDay <;> simp only [Nat.reduceAdd] <;> omega

theorem daysBeforeMonth_le
    (leap : Bool)
    {left right : Nat}
    (positive : 1 ≤ left)
    (le : left ≤ right)
    (inYear : right ≤ 13) :
    daysBeforeMonth leap left ≤ daysBeforeMonth leap right := by
  have ordered : ∀ right ≤ 13, ∀ left ≤ right, 1 ≤ left →
      daysBeforeMonth leap left ≤ daysBeforeMonth leap right := by
    cases leap <;> decide
  exact ordered right inYear left le positive

/-- The days of a month belong to that month. -/
theorem monthOfYearDay_add
    {leap : Bool}
    {month offset : Nat}
    (positive : 1 ≤ month)
    (inYear : month ≤ 12)
    (inMonth : offset < daysInMonth leap month) :
    monthOfYearDay leap (daysBeforeMonth leap month + offset) = month := by
  have yearEnds : daysBeforeMonth leap (month + 1) ≤ daysBeforeMonth leap 13 :=
    daysBeforeMonth_le leap (by omega) (by omega) (by omega)
  rw [daysInMonth] at inMonth
  obtain ⟨positiveFound, inYearFound⟩ :=
    monthOfYearDay_bounds leap (daysBeforeMonth leap month + offset)
  have inside : daysBeforeMonth leap month + offset < daysBeforeMonth leap 13 := by omega
  obtain ⟨begins, ends⟩ := monthOfYearDay_spec inside
  set found := monthOfYearDay leap (daysBeforeMonth leap month + offset)
  rcases Nat.lt_trichotomy found month with earlier | same | later
  · have ordered : daysBeforeMonth leap (found + 1) ≤ daysBeforeMonth leap month :=
      daysBeforeMonth_le leap (by omega) earlier (by omega)
    omega
  · exact same
  · have ordered : daysBeforeMonth leap (month + 1) ≤ daysBeforeMonth leap found :=
      daysBeforeMonth_le leap (by omega) later (by omega)
    omega

namespace Date

theorem isRepresented_iff
    {date : Date} :
    date.isRepresented = true ↔ leastYear ≤ date.year ∧ date.year ≤ greatestYear := by
  have next : date.year ≤ greatestYear ↔ ¬greatestYear + 1 ≤ date.year := by omega
  rw [isRepresented, Bool.and_eq_true, decide_eq_true_eq, decide_eq_true_eq, next, year,
    le_yearOfDay_iff, le_yearOfDay_iff, Int.not_le]

theorem month_bounds
    (date : Date) :
    1 ≤ date.month ∧ date.month ≤ 12 :=
  monthOfYearDay_bounds _ _

/-- A date is made up of the days before its year, before its month and in its month. -/
theorem day_eq
    (date : Date) :
    1 ≤ date.dayOfMonth ∧
      date.dayOfMonth ≤ daysInMonth (isLeapYear date.year) date.month ∧
      date.day = daysBeforeYear date.year +
        daysBeforeMonth (isLeapYear date.year) date.month + date.dayOfMonth - 1 := by
  obtain ⟨begins, ends⟩ := yearOfDay_spec date.day
  rw [← year, daysBeforeYear_succ] at ends
  rw [← year] at begins
  have inYear : date.yearDay < daysBeforeMonth (isLeapYear date.year) 13 := by
    rw [yearDay]
    omega
  obtain ⟨monthBegins, monthEnds⟩ := monthOfYearDay_spec inYear
  rw [← month] at monthBegins monthEnds
  have counted : (date.yearDay : Int) = date.day - daysBeforeYear date.year := by
    rw [yearDay]
    omega
  rw [dayOfMonth, daysInMonth]
  omega

theorem ofCivil?_eq_some_iff
    {year : Int}
    {month day : Nat}
    {date : Date} :
    ofCivil? year month day = some date ↔
      ((leastYear ≤ year ∧ year ≤ greatestYear) ∧ 1 ≤ month ∧ month ≤ 12) ∧
        (1 ≤ day ∧ day ≤ daysInMonth (isLeapYear year) month) ∧
          date = ⟨daysBeforeYear year + daysBeforeMonth (isLeapYear year) month + day - 1⟩ := by
  rw [ofCivil?]
  split
  · rename_i named
    rw [Option.some.injEq, eq_comm]
    exact ⟨fun same => ⟨⟨⟨named.1, named.2.1⟩, named.2.2.1, named.2.2.2.1⟩, named.2.2.2.2, same⟩,
      fun parts => parts.2.2⟩
  · rename_i unnamed
    simp only [reduceCtorEq, false_iff]
    rintro ⟨⟨⟨notBefore, notAfter⟩, positive, inYear⟩, ⟨first, last⟩, _⟩
    exact unnamed ⟨notBefore, notAfter, positive, inYear, first, last⟩

/-- A twenty-ninth of February is named in leap years only. -/
example :
    (ofCivil? 2024 2 29).map Date.day = some 19782 ∧ ofCivil? 2023 2 29 = none := by
  decide

/-- The civil name of a represented date names it. -/
theorem ofCivil?_civil
    {date : Date}
    (represented : date.isRepresented = true) :
    ofCivil? date.year date.month date.dayOfMonth = some date := by
  obtain ⟨first, last, sum⟩ := date.day_eq
  exact ofCivil?_eq_some_iff.mpr
    ⟨⟨isRepresented_iff.mp represented, date.month_bounds⟩, ⟨first, last⟩, congrArg Date.mk sum⟩

/-- The date that a year, a month and a day of the month name has them for its own. -/
theorem civil_of_ofCivil?
    {year : Int}
    {month day : Nat}
    {date : Date}
    (named : ofCivil? year month day = some date) :
    date.year = year ∧ date.month = month ∧ date.dayOfMonth = day := by
  obtain ⟨⟨_, positive, inYear⟩, ⟨notBefore, inMonth⟩, rfl⟩ := ofCivil?_eq_some_iff.mp named
  set date : Date := ⟨daysBeforeYear year + daysBeforeMonth (isLeapYear year) month + day - 1⟩
    with dateEq
  have dateDay : date.day =
      daysBeforeYear year + daysBeforeMonth (isLeapYear year) month + day - 1 := rfl
  have short := (daysInMonth_bounds (isLeapYear year) positive inYear).2
  have yearEnds := daysBeforeMonth_add_le (isLeapYear year) positive inYear
  have sameYear : date.year = year := by
    have notEarlier : year ≤ date.year := le_yearOfDay_iff.mpr (by omega)
    have notLater : ¬year + 1 ≤ date.year := by
      rw [Date.year, le_yearOfDay_iff, daysBeforeYear_succ]
      omega
    omega
  have sameDay : date.yearDay = daysBeforeMonth (isLeapYear year) month + (day - 1) := by
    rw [yearDay, sameYear]
    omega
  have sameMonth : date.month = month := by
    rw [Date.month, sameYear, sameDay]
    exact monthOfYearDay_add positive inYear (by omega)
  refine ⟨sameYear, sameMonth, ?_⟩
  rw [dayOfMonth, sameYear, sameMonth, sameDay]
  omega

/-- There is a first of every month of every represented year, and of no other. -/
theorem ofCivil?_first_eq_some_iff
    {year : Int}
    {month : Nat}
    {first : Date} :
    ofCivil? year month 1 = some first ↔
      ((leastYear ≤ year ∧ year ≤ greatestYear) ∧ 1 ≤ month ∧ month ≤ 12) ∧
        first = ⟨daysBeforeYear year + daysBeforeMonth (isLeapYear year) month⟩ := by
  rw [ofCivil?_eq_some_iff, Int.natCast_one, Int.add_sub_cancel]
  refine and_congr_right ?_
  rintro ⟨_, positive, inYear⟩
  have long := (daysInMonth_bounds (isLeapYear year) positive inYear).1
  simp [long]

/-- The days of a month follow its first one. -/
theorem day_eq_first_add
    {year : Int}
    {month dayOfMonth : Nat}
    {first date : Date}
    (begins : ofCivil? year month 1 = some first)
    (named : ofCivil? year month dayOfMonth = some date) :
    dayOfMonth - 1 < 31 ∧ date = ⟨first.day + (dayOfMonth - 1 : Nat)⟩ := by
  obtain ⟨⟨_, positive, inYear⟩, rfl⟩ := ofCivil?_first_eq_some_iff.mp begins
  obtain ⟨_, ⟨notBefore, inMonth⟩, rfl⟩ := ofCivil?_eq_some_iff.mp named
  have short := (daysInMonth_bounds (isLeapYear year) positive inYear).2
  refine ⟨by omega, congrArg Date.mk ?_⟩
  dsimp only
  omega

/-- Days that follow the first of a month are represented, up to thirty of them also
in the last month of all. -/
theorem addDays?_first
    {year : Int}
    {month : Nat}
    {first : Date}
    (begins : ofCivil? year month 1 = some first)
    {days : Nat}
    (bounded : days ≤ 30) :
    first.addDays? days = some ⟨first.day + days⟩ := by
  obtain ⟨⟨⟨notBefore, notAfter⟩, positive, inYear⟩, rfl⟩ :=
    ofCivil?_first_eq_some_iff.mp begins
  have lower := daysBeforeYear_le notBefore
  have upper : daysBeforeYear (year + 1) ≤ daysBeforeYear (greatestYear + 1) :=
    daysBeforeYear_le (by omega)
  rw [daysBeforeYear_succ] at upper
  have room := daysBeforeMonth_add_le (isLeapYear year) positive inYear
  rw [addDays?, if_pos]
  simp only [isRepresented, Bool.and_eq_true, decide_eq_true_eq]
  omega

end Date
end Calendar
end FleetDashboard
