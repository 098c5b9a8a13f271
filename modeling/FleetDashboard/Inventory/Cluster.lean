import FleetDashboard.Calendar.Timestamp
import FleetDashboard.Json.Record

/-!
# Clusters

A cluster of an organization and the state of its life.
-/

namespace FleetDashboard

open Calendar Json

/-- The state of a cluster's life. -/
inductive ClusterStatus where
  | pending
  | installing
  | running
  | deleting
  | deleted
  | error
  deriving DecidableEq, Repr

namespace ClusterStatus

/-- Every state. -/
def all : List ClusterStatus :=
  [pending, installing, running, deleting, deleted, error]

/-- The name of a state. -/
def name : ClusterStatus → String
  | pending => "pending"
  | installing => "installing"
  | running => "running"
  | deleting => "deleting"
  | deleted => "deleted"
  | error => "error"

/-- The state of a name. -/
def ofName?
    (name : String) : Option ClusterStatus :=
  all.find? fun status => status.name == name

@[simp] theorem ofName?_name
    (status : ClusterStatus) :
    ofName? status.name = some status := by
  cases status <;> decide

end ClusterStatus

/-- A cluster as it is recorded. -/
structure Cluster where
  id : String
  organization : String
  name : String
  description : String
  status : ClusterStatus
  createdAt : Instant
  deriving DecidableEq, Repr

namespace Cluster

/-- The names of a record's fields, in order. -/
def fields : List String :=
  ["id", "organizationId", "name", "description", "status", "createdAt"]

/-- Decode a time stamp. -/
def decodeInstant : Decoder Instant := fun value =>
  (decodeText value).bind Timestamp.read?

/-- Decode a state. -/
def decodeStatus : Decoder ClusterStatus := fun value =>
  (decodeName value).bind ClusterStatus.ofName?

/-- Decode a record. -/
def decode : Decoder Cluster := fun value =>
  match slots fields value with
  | some [id, organization, name, description, status, createdAt] => do
      let id ← required decodeText id
      let organization ← required decodeText organization
      let name ← required decodeText name
      let description ← withDefault "" decodeText description
      let status ← required decodeStatus status
      let createdAt ← required decodeInstant createdAt
      pure ⟨id, organization, name, description, status, createdAt⟩
  | _ => none

/-- The record of a cluster. -/
def toJson
    (cluster : Cluster) : Json :=
  .record
    [("id", .text cluster.id),
      ("organizationId", .text cluster.organization),
      ("name", .text cluster.name),
      ("description", .text cluster.description),
      ("status", .text cluster.status.name),
      ("createdAt", .text (Timestamp.write cluster.createdAt))]

end Cluster
end FleetDashboard
