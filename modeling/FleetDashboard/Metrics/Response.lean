import FleetDashboard.Fault
import FleetDashboard.Json.Reader
import FleetDashboard.Json.Record
import FleetDashboard.Metrics.Sample

/-!
# Responses of a metrics backend

The envelope of a query response and its four result types.  One response can be
read as samples (the last point of every series) or as series.  A result that
stands in front of its type is held until the type is known.
-/

namespace FleetDashboard
namespace Metrics

open Json

/-- The data of a successful response. -/
inductive QueryData where
  | vector
      (samples : List Sample)
  | matrix
      (series : List Series)
  | scalar
      (point : Point)
  | string
      (point : Point)
  deriving DecidableEq, Repr

/-- A query response. -/
structure QueryResponse where
  status : String
  data : Option QueryData
  errorType : Option String
  error : Option String
  deriving DecidableEq, Repr

namespace QueryResponse

/-- Decode a point: a time and the text of a value. -/
def decodePoint : Decoder Point := fun value =>
  (decodePair decodeBinary64 decodeText value).map fun pair => ⟨pair.1, pair.2⟩

/-- Decode one label. -/
def decodeLabel
    (member : Option String × Json) : Option (String × String) := do
  let name ← member.1
  let value ← decodeText member.2
  pure (name, value)

/-- Decode labels; of two members with one key the last counts. -/
def decodeLabels : Decoder Labels
  | .object members => (members.mapM decodeLabel).map Labels.ofPairs
  | _ => none

/-- Decode an entry of a vector. -/
def decodeSample : Decoder Sample := fun value =>
  match slots ["metric", "value"] value with
  | some [labels, point] => do
      let labels ← withDefault [] decodeLabels labels
      let point ← required decodePoint point
      pure ⟨labels, point⟩
  | _ => none

/-- Decode an entry of a matrix. -/
def decodeSeries : Decoder Series := fun value =>
  match slots ["metric", "values"] value with
  | some [labels, points] => do
      let labels ← withDefault [] decodeLabels labels
      let points ← required (decodeList decodePoint) points
      pure ⟨labels, points⟩
  | _ => none

/-- Decode a result of a named type. -/
def decodeResult
    (resultType : String) : Decoder QueryData := fun value =>
  match resultType with
  | "vector" => (decodeList decodeSample value).map .vector
  | "matrix" => (decodeList decodeSeries value).map .matrix
  | "scalar" => (decodePoint value).map .scalar
  | "string" => (decodePoint value).map .string
  | _ => none

/-- Deepest nesting of a result that is held until its type is known. -/
def heldDepth : Nat := 125

/-- A result in front of its type must be fit for holding. -/
def resultIsHeld : List (Option String × Json) → Bool
  | [] => false
  | (key, _) :: rest =>
      if key = some "result" then true
      else if key = some "resultType" then false
      else resultIsHeld rest

/-- Decode the data of a response: a result and its type, in either order. -/
def decodeData : Decoder QueryData := fun value =>
  let held :=
    match value with
    | .object members => resultIsHeld members
    | _ => false
  match slots ["resultType", "result"] value with
  | some [some resultType, some result] => do
      let resultType ← decodeName resultType
      if held && !isHoldable heldDepth result then none
      else decodeResult resultType result
  | _ => none

/-- Decode a response. -/
def decode : Decoder QueryResponse := fun value =>
  match slots ["status", "data", "errorType", "error"] value with
  | some [status, data, errorType, error] => do
      let status ← required decodeText status
      let data ← withDefault none (decodeNullable decodeData) data
      let errorType ← withDefault none (decodeNullable decodeText) errorType
      let error ← withDefault none (decodeNullable decodeText) error
      pure ⟨status, data, errorType, error⟩
  | _ => none

/-- Read the body of a response. -/
def read?
    (body : String) : Option QueryResponse :=
  (Json.read? body).bind decode

/-- The data of a response, or the failure that the backend reports. -/
def payload
    (response : QueryResponse) : Except DashboardError QueryData :=
  if response.status != "success" then
    .error (.transport ("Query failed (" ++ response.errorType.getD "unknown" ++ "): " ++
      response.error.getD ""))
  else
    match response.data with
    | some data => .ok data
    | none => .error (.transport "Query response has no data")

end QueryResponse

namespace QueryData

/-- Read data as samples.  A series yields its last point, or nothing. -/
def samples : QueryData → List Sample
  | vector samples => samples
  | matrix series =>
      series.filterMap fun entry =>
        entry.points.getLast?.map fun point => ⟨entry.labels, point⟩
  | scalar point => [⟨[], point⟩]
  | string point => [⟨[], point⟩]

/-- Read data as series.  A sample is a series of one point. -/
def series : QueryData → List Series
  | vector samples => samples.map fun sample => ⟨sample.labels, [sample.point]⟩
  | matrix series => series
  | scalar point => [⟨[], [point]⟩]
  | string point => [⟨[], [point]⟩]

end QueryData
end Metrics
end FleetDashboard
