import FleetDashboard.Json.Record
import FleetDashboard.Text.Blank

/-!
# Organizations

A tenant of the platform and the cluster that hosts its metrics.
-/

namespace FleetDashboard

open Json

/-- An organization as it is recorded. -/
structure Organization where
  id : String
  name : String
  /-- The cluster that hosts the organization's metrics, as recorded. -/
  primaryClusterId : Option String
  deriving DecidableEq, Repr

namespace Organization

/-- The primary cluster.  A record that is blank names none. -/
def primaryCluster?
    (organization : Organization) : Option String :=
  (organization.primaryClusterId.map Text.trim).filter fun id => !id.isEmpty

/-- The names of a record's fields, in order. -/
def fields : List String :=
  ["id", "name", "primaryClusterId"]

/-- Decode a record. -/
def decode : Decoder Organization := fun value =>
  match slots fields value with
  | some [id, name, primaryClusterId] => do
      let id ← required decodeText id
      let name ← required decodeText name
      let primaryClusterId ← withDefault none (decodeNullable decodeText) primaryClusterId
      pure ⟨id, name, primaryClusterId⟩
  | _ => none

/-- The record of an organization. -/
def toJson
    (organization : Organization) : Json :=
  .record
    [("id", .text organization.id),
      ("name", .text organization.name),
      ("primaryClusterId", .optionalText organization.primaryClusterId)]

end Organization
end FleetDashboard
