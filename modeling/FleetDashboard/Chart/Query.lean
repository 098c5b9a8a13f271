import FleetDashboard.Fault
import FleetDashboard.Text.Numeral

/-!
# The query of a chart request

Named parameters of a request for charts.  Every parameter may occur once, the
chart type must; names that are not parameters do not count.  The first pair
that cannot be accepted decides how the query is refused, a missing chart type
comes last.  What has been read is then held against the bounds of each
parameter.
-/

namespace FleetDashboard

open Text

/-- Why a query string is refused. -/
inductive QueryFault where
  | missing
      (parameter : String)
  | duplicate
      (parameter : String)
  | numeral
      (parameter : String)
      (fault : NumeralFault)
  deriving DecidableEq, Repr

namespace QueryFault

/-- The wording of a fault. -/
def message : QueryFault → String
  | missing parameter =>
      "Failed to deserialize query string: missing field `" ++ parameter ++ "`"
  | duplicate parameter =>
      "Failed to deserialize query string: duplicate field `" ++ parameter ++ "`"
  | numeral parameter fault =>
      "Failed to deserialize query string: " ++ parameter ++ ": " ++ fault.message

end QueryFault

/-- The parameters of a chart request that apply besides its type. -/
structure ChartParameters where
  duration : Option String
  interval : Option String
  year : Option Int
  month : Option Nat
  deriving DecidableEq, Repr

/-- The query of a chart request. -/
structure ChartQuery where
  chartType : String
  parameters : ChartParameters
  deriving DecidableEq, Repr

/-- What has been read of a query. -/
structure ChartQueryDraft where
  chartType : Option String
  parameters : ChartParameters
  deriving DecidableEq, Repr

namespace ChartQueryDraft

/-- Nothing has been read. -/
def blank : ChartQueryDraft :=
  ⟨none, ⟨none, none, none, none⟩⟩

/-- Fill a parameter that is still vacant. -/
def fill
    (parameter : String)
    (vacant : Option α)
    (value : Except NumeralFault α) : Except QueryFault (Option α) :=
  match vacant with
  | some _ => .error (.duplicate parameter)
  | none =>
      match value with
      | .ok value => .ok (some value)
      | .error fault => .error (.numeral parameter fault)

/-- Bits of a year's numeral, its sign included. -/
def yearBits : Nat := 32

/-- Greatest numeral of a month. -/
def greatestMonth : Nat := Nat.pow 2 32 - 1

/-- Read one pair. -/
def absorb
    (draft : ChartQueryDraft)
    (pair : String × String) : Except QueryFault ChartQueryDraft :=
  let parameters := draft.parameters
  match pair.1 with
  | "chartType" =>
      (fill "chartType" draft.chartType (.ok pair.2)).map fun chartType =>
        { draft with chartType := chartType }
  | "duration" =>
      (fill "duration" parameters.duration (.ok pair.2)).map fun duration =>
        { draft with parameters := { parameters with duration := duration } }
  | "interval" =>
      (fill "interval" parameters.interval (.ok pair.2)).map fun interval =>
        { draft with parameters := { parameters with interval := interval } }
  | "year" =>
      (fill "year" parameters.year (readInt yearBits pair.2.toList)).map fun year =>
        { draft with parameters := { parameters with year := year } }
  | "month" =>
      (fill "month" parameters.month (readNat greatestMonth pair.2.toList)).map fun month =>
        { draft with parameters := { parameters with month := month } }
  | _ => .ok draft

/-- The query that has been read. -/
def finish
    (draft : ChartQueryDraft) : Except QueryFault ChartQuery :=
  match draft.chartType with
  | some chartType => .ok ⟨chartType, draft.parameters⟩
  | none => .error (.missing "chartType")

end ChartQueryDraft

namespace ChartQuery

/-- Read the query that pairs of names and values denote. -/
def ofPairs
    (pairs : List (String × String)) : Except QueryFault ChartQuery := do
  let draft ← pairs.foldlM ChartQueryDraft.absorb ChartQueryDraft.blank
  draft.finish

/-- A year that a chart can be asked for. -/
def isYearAllowed
    (year : Int) : Bool :=
  1970 ≤ year && year ≤ 9999

/-- A month that a chart can be asked for. -/
def isMonthAllowed
    (month : Nat) : Bool :=
  1 ≤ month && month ≤ 12

/-- One complaint for each parameter that is out of bounds, in the order of the
parameters' names.  A complaint is the line that validation prints for the parameter
up to the bracket: the list of the bounds and of the value, whose order is not
fixed, is left out. -/
def complaints
    (query : ChartQuery) : List String :=
  (if query.chartType.isEmpty then ["chart_type: Validation error: length"] else []) ++
    (if query.parameters.month.all isMonthAllowed then []
      else ["month: Validation error: range"]) ++
    (if query.parameters.year.all isYearAllowed then []
      else ["year: Validation error: range"])

/-- Refuse a query with a parameter out of bounds.  The text is a normal form of what
validation prints, which is one line for each complaint in an order that is not
fixed: here they are sorted and joined by semicolons. -/
def validate
    (query : ChartQuery) : Except DashboardError Unit :=
  match query.complaints with
  | [] => .ok ()
  | complaints => .error (.validation ("; ".intercalate complaints))

end ChartQuery
end FleetDashboard
