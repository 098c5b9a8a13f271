import FleetDashboard.Calendar.Date

/-!
# Instants of universal time

An instant is a count of seconds since 1970-01-01T00:00:00Z and a count of
nanoseconds within the second.  Nanoseconds from one to two billion stand for
the leap second that follows the counted one.  Instants are ordered by seconds,
then by nanoseconds.
-/

namespace FleetDashboard
namespace Calendar

/-- Seconds of a day. -/
def secondsPerDay : Nat := 86400

/-- Nanoseconds of a second. -/
def nanosPerSecond : Nat := 1000000000

/-- An instant of universal time. -/
structure Instant where
  seconds : Int
  nanos : Nat
  deriving DecidableEq, Repr

namespace Instant

instance : LT Instant :=
  ⟨fun left right =>
    left.seconds < right.seconds ∨
      (left.seconds = right.seconds ∧ left.nanos < right.nanos)⟩

instance : LE Instant :=
  ⟨fun left right =>
    left.seconds < right.seconds ∨
      (left.seconds = right.seconds ∧ left.nanos ≤ right.nanos)⟩

instance (left right : Instant) : Decidable (left < right) :=
  inferInstanceAs (Decidable (_ ∨ (_ ∧ _)))

instance (left right : Instant) : Decidable (left ≤ right) :=
  inferInstanceAs (Decidable (_ ∨ (_ ∧ _)))

theorem lt_iff
    {left right : Instant} :
    left < right ↔
      left.seconds < right.seconds ∨
        (left.seconds = right.seconds ∧ left.nanos < right.nanos) := Iff.rfl

theorem le_iff
    {left right : Instant} :
    left ≤ right ↔
      left.seconds < right.seconds ∨
        (left.seconds = right.seconds ∧ left.nanos ≤ right.nanos) := Iff.rfl

@[simp] theorem not_lt
    {left right : Instant} :
    ¬left < right ↔ right ≤ left := by
  simp only [lt_iff, le_iff]
  omega

theorem le_trans
    {first second third : Instant}
    (firstLe : first ≤ second)
    (secondLe : second ≤ third) :
    first ≤ third := by
  simp only [le_iff] at *
  omega

theorem le_total
    (left right : Instant) :
    left ≤ right ∨ right ≤ left := by
  simp only [le_iff]
  omega

/-- The date of an instant. -/
def date
    (instant : Instant) : Date :=
  ⟨instant.seconds / (secondsPerDay : Int)⟩

/-- Seconds since midnight. -/
def secondOfDay
    (instant : Instant) : Nat :=
  (instant.seconds % (secondsPerDay : Int)).toNat

/-- The first instant of a date. -/
def midnight
    (date : Date) : Instant :=
  ⟨date.day * (secondsPerDay : Int), 0⟩

/-- The instant some whole seconds earlier.  Stepping back out of a leap second
first steps to the second that follows it.  The difference is exact, also where it
lies before the first day of `leastYear`: there a subtraction that is held to the
representable instants panics. -/
def secondsBefore
    (instant : Instant)
    (seconds : Nat) : Instant :=
  if nanosPerSecond ≤ instant.nanos ∧ 0 < seconds then
    ⟨instant.seconds + 1 - seconds, instant.nanos - nanosPerSecond⟩
  else ⟨instant.seconds - seconds, instant.nanos⟩

@[simp] theorem midnight_seconds
    (date : Date) :
    (midnight date).seconds = date.day * (secondsPerDay : Int) := rfl

@[simp] theorem midnight_nanos
    (date : Date) :
    (midnight date).nanos = 0 := rfl

end Instant
end Calendar
end FleetDashboard
