import FleetDashboard.Fault
import FleetDashboard.Text.Numeral

/-!
# Deadlines

A call to a remote party yields its outcome after some time or never.  Under a
deadline it yields the outcome if that comes no later than the deadline, and a
transport failure otherwise.  Time is counted in nanoseconds.
-/

namespace FleetDashboard

/-- The outcome of a call and when it comes. -/
inductive Awaited (α : Type) where
  | never
  | after
      (delay : Nat)
      (outcome : α)
  deriving DecidableEq, Repr

namespace Awaited

/-- The failure of a call that exceeds its deadline. -/
def timedOut
    (deadline : Nat)
    (what : String) : DashboardError :=
  .transport (what ++ " timed out after " ++ Text.natText (deadline / 1000000000) ++ "s")

/-- The outcome under a deadline. -/
def within
    (deadline : Nat)
    (what : String) : Awaited (Except DashboardError α) → Except DashboardError α
  | never => .error (timedOut deadline what)
  | after delay outcome =>
      if delay ≤ deadline then outcome else .error (timedOut deadline what)

/-- Read the outcome, whenever it comes. -/
def map
    (f : α → β) : Awaited α → Awaited β
  | never => never
  | after delay outcome => after delay (f outcome)

end Awaited
end FleetDashboard
