/-!
# Dates of the proleptic Gregorian calendar

A date is a count of days since 1970-01-01.  Year, month and day are read off
that count, and a date is built from them only when they name a day between the
first day of `leastYear` and the last day of `greatestYear`.
-/

namespace FleetDashboard
namespace Calendar

/-- A year with a twenty-ninth of February. -/
def isLeapYear
    (year : Int) : Bool :=
  year % 4 == 0 && (year % 100 != 0 || year % 400 == 0)

/-- Days of a year that lie before a month. -/
def daysBeforeMonth
    (leap : Bool)
    (month : Nat) : Nat :=
  let extra := if leap then 1 else 0
  match month with
  | 1 => 0
  | 2 => 31
  | 3 => 59 + extra
  | 4 => 90 + extra
  | 5 => 120 + extra
  | 6 => 151 + extra
  | 7 => 181 + extra
  | 8 => 212 + extra
  | 9 => 243 + extra
  | 10 => 273 + extra
  | 11 => 304 + extra
  | 12 => 334 + extra
  | _ => 365 + extra

/-- Days of a month. -/
def daysInMonth
    (leap : Bool)
    (month : Nat) : Nat :=
  daysBeforeMonth leap (month + 1) - daysBeforeMonth leap month

/-- Days from 1970-01-01 to the first day of a year. -/
def daysBeforeYear
    (year : Int) : Int :=
  let past := year - 1
  365 * past + past / 4 - past / 100 + past / 400 - 719162

/-- The year that holds a day, counted from 1970-01-01. -/
def yearOfDay
    (day : Int) : Int :=
  let guess := (day + 719162) * 400 / 146097 + 1
  if day < daysBeforeYear guess then guess - 1
  else if daysBeforeYear (guess + 1) ≤ day then guess + 1
  else guess

/-- The month that holds a day of a year, counted from zero. -/
def monthOfYearDay
    (leap : Bool)
    (yearDay : Nat) : Nat :=
  if yearDay < daysBeforeMonth leap 2 then 1
  else if yearDay < daysBeforeMonth leap 3 then 2
  else if yearDay < daysBeforeMonth leap 4 then 3
  else if yearDay < daysBeforeMonth leap 5 then 4
  else if yearDay < daysBeforeMonth leap 6 then 5
  else if yearDay < daysBeforeMonth leap 7 then 6
  else if yearDay < daysBeforeMonth leap 8 then 7
  else if yearDay < daysBeforeMonth leap 9 then 8
  else if yearDay < daysBeforeMonth leap 10 then 9
  else if yearDay < daysBeforeMonth leap 11 then 10
  else if yearDay < daysBeforeMonth leap 12 then 11
  else 12

/-- First year whose dates are represented. -/
def leastYear : Int := -262143

/-- Last year whose dates are represented. -/
def greatestYear : Int := 262142

/-- A calendar date, as a count of days since 1970-01-01. -/
structure Date where
  day : Int
  deriving DecidableEq, Repr

namespace Date

/-- The date lies between the first and the last represented day. -/
def isRepresented
    (date : Date) : Bool :=
  daysBeforeYear leastYear ≤ date.day && date.day < daysBeforeYear (greatestYear + 1)

/-- The date of a year, a month and a day of the month, if there is one. -/
def ofCivil?
    (year : Int)
    (month day : Nat) : Option Date :=
  let leap := isLeapYear year
  if leastYear ≤ year ∧ year ≤ greatestYear ∧ 1 ≤ month ∧ month ≤ 12 ∧
      1 ≤ day ∧ day ≤ daysInMonth leap month then
    some ⟨daysBeforeYear year + daysBeforeMonth leap month + day - 1⟩
  else none

/-- The year of a date. -/
def year
    (date : Date) : Int :=
  yearOfDay date.day

/-- Days of the year before a date. -/
def yearDay
    (date : Date) : Nat :=
  (date.day - daysBeforeYear date.year).toNat

/-- The month of a date. -/
def month
    (date : Date) : Nat :=
  monthOfYearDay (isLeapYear date.year) date.yearDay

/-- The day of the month of a date. -/
def dayOfMonth
    (date : Date) : Nat :=
  date.yearDay - daysBeforeMonth (isLeapYear date.year) date.month + 1

/-- The date some days later, if it is represented. -/
def addDays?
    (date : Date)
    (days : Nat) : Option Date :=
  let later : Date := ⟨date.day + days⟩
  if later.isRepresented then some later else none

instance : LT Date := ⟨fun left right => left.day < right.day⟩

instance : LE Date := ⟨fun left right => left.day ≤ right.day⟩

instance (left right : Date) : Decidable (left < right) :=
  inferInstanceAs (Decidable (left.day < right.day))

instance (left right : Date) : Decidable (left ≤ right) :=
  inferInstanceAs (Decidable (left.day ≤ right.day))

theorem le_iff
    {left right : Date} :
    left ≤ right ↔ left.day ≤ right.day := Iff.rfl

theorem lt_iff
    {left right : Date} :
    left < right ↔ left.day < right.day := Iff.rfl

end Date
end Calendar
end FleetDashboard
