import FleetDashboard.Fault
import FleetDashboard.Number.Decimal
import FleetDashboard.Number.Fixed
import FleetDashboard.Text.Blank

/-!
# Reading metric values

A value text is a finite decimal number, or a whole number of sixty-four bits
where only those make sense.  Blanks around it do not count; a refusal reports
the text as it was received.
-/

namespace FleetDashboard
namespace Metrics

open Number Text

/-- The finite number that a value text denotes. -/
def readValue
    (raw : String) : Option Binary64 :=
  (Binary64.read? (trimBoth raw.toList)).filter Binary64.isFinite

/-- The whole number that a value text denotes. -/
def readWholeNumber
    (raw : String) : Option Int :=
  (readInt 64 (trimBoth raw.toList)).toOption

/-- Read a value text, or report it. -/
def parseValue
    (raw : String) : Except DashboardError Binary64 :=
  match readValue raw with
  | some value => .ok value
  | none => .error (.parse raw)

/-- Read a whole number, or report the text. -/
def parseWholeNumber
    (raw : String) : Except DashboardError Int :=
  match readWholeNumber raw with
  | some value => .ok value
  | none => .error (.parse raw)

/-- The text of a chart cell: six decimal places. -/
def cellText
    (value : Binary64) : String :=
  value.fixedText 6

/-- The text of a percentage or a load: two decimal places. -/
def shareText
    (value : Binary64) : String :=
  value.fixedText 2

/-- A value that has been read is finite. -/
theorem isFinite_of_readValue
    {raw : String}
    {value : Binary64}
    (read : readValue raw = some value) :
    value.isFinite = true := by
  unfold readValue at read
  exact (Option.filter_eq_some_iff.mp read).2

end Metrics
end FleetDashboard
