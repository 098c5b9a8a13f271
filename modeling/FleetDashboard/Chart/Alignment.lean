import FleetDashboard.Metrics.Reading
import FleetDashboard.Metrics.Sample

/-!
# Series on a common axis

Series have points of their own.  A chart needs one axis for all of them: the
whole seconds at which any series has a point, in the order in which they are
first met.  A series without a point at some second has an empty cell there, and
so has one whose point holds no number.
-/

namespace FleetDashboard

open Metrics Number

namespace Metrics.Point

/-- The whole second nearest to a point's time. -/
def moment
    (point : Point) : Int :=
  point.time.roundToInteger

end Metrics.Point

/-- Series on a common axis: one row per series, one cell per second. -/
structure Alignment where
  axis : List Int
  rows : List (List String)
  deriving DecidableEq, Repr

namespace Alignment

/-- The seconds of all points, series after series. -/
def moments
    (series : List Series) : List Int :=
  series.flatMap fun entry => entry.points.map Point.moment

/-- The text of one value of a chart, or nothing for a text that is no number. -/
def valueCell
    (percentage : Bool)
    (raw : String) : String :=
  match readValue raw with
  | some value => cellText (if percentage then value.mul Binary64.hundred else value)
  | none => ""

/-- The cell of a series at a second: its first point there decides. -/
def cell
    (percentage : Bool)
    (series : Series)
    (moment : Int) : String :=
  match series.points.find? fun point => point.moment == moment with
  | some point => valueCell percentage point.value
  | none => ""

/-- Bring series onto a common axis. -/
def ofSeries
    (series : List Series)
    (percentage : Bool) : Alignment :=
  let axis := (moments series).eraseDups
  ⟨axis, series.map fun entry => axis.map (cell percentage entry)⟩

@[simp] theorem axis_ofSeries
    (series : List Series)
    (percentage : Bool) :
    (ofSeries series percentage).axis = (moments series).eraseDups := rfl

@[simp] theorem length_rows_ofSeries
    (series : List Series)
    (percentage : Bool) :
    (ofSeries series percentage).rows.length = series.length := by
  simp [ofSeries]

theorem length_of_mem_rows
    {series : List Series}
    {percentage : Bool}
    {row : List String}
    (member : row ∈ (ofSeries series percentage).rows) :
    row.length = (ofSeries series percentage).axis.length := by
  simp only [ofSeries, List.mem_map] at member
  obtain ⟨entry, _, rfl⟩ := member
  simp [ofSeries]

end Alignment
end FleetDashboard
