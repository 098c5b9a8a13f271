import FleetDashboard.Calendar.Timestamp
import FleetDashboard.Json.Record

/-!
# Alerts

An event that an alert rule raised for an organization.  Restarts of pods are
told from other events by the name of the rule.
-/

namespace FleetDashboard

open Calendar Json

/-- An alert event as it is recorded. -/
structure Alert where
  id : String
  organization : String
  cluster : String
  name : String
  createdAt : Instant
  deriving DecidableEq, Repr

namespace Alert

/-- The rule that is raised when a pod restarts again and again. -/
def podRestart : String := "pod-restart-frequently"

/-- The names of a record's fields, in order. -/
def fields : List String :=
  ["id", "organizationId", "clusterId", "name", "createdAt"]

/-- Decode a record. -/
def decode : Decoder Alert := fun value =>
  match slots fields value with
  | some [id, organization, cluster, name, createdAt] => do
      let id ← required decodeText id
      let organization ← required decodeText organization
      let cluster ← withDefault "" decodeText cluster
      let name ← required decodeText name
      let createdAt ← required decodeText createdAt
      let createdAt ← Timestamp.read? createdAt
      pure ⟨id, organization, cluster, name, createdAt⟩
  | _ => none

/-- The record of an alert event. -/
def toJson
    (alert : Alert) : Json :=
  .record
    [("id", .text alert.id),
      ("organizationId", .text alert.organization),
      ("clusterId", .text alert.cluster),
      ("name", .text alert.name),
      ("createdAt", .text (Timestamp.write alert.createdAt))]

/-- The event reports restarts of an organization's pods, from `start` up to but
not at `finish`. -/
def isPodRestart
    (organization : String)
    (start finish : Instant)
    (alert : Alert) : Bool :=
  alert.organization == organization && alert.name == podRestart &&
    start ≤ alert.createdAt && alert.createdAt < finish

/-- One event was created no later than another. -/
def isNoLater
    (left right : Alert) : Bool :=
  left.createdAt ≤ right.createdAt

/-- The restarts of an organization's pods in a span of time, in order of time;
events of one time keep their order. -/
def podRestarts
    (alerts : List Alert)
    (organization : String)
    (start finish : Instant) : List Alert :=
  (alerts.filter (isPodRestart organization start finish)).mergeSort isNoLater

end Alert
end FleetDashboard
