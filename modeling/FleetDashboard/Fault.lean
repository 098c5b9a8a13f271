/-!
# Why a dashboard request fails

One constructor per cause.  Each carries what its wording needs; the wording, the
stable code and the status class are functions of the cause.
-/

namespace FleetDashboard

/-- The cause of a failed request. -/
inductive DashboardError where
  /-- No organization has the requested id. -/
  | tenantNotFound
      (organization : String)
  /-- The organization has no usable primary cluster. -/
  | configuration
      (reason : String)
  /-- The metrics endpoint of the primary cluster cannot be determined. -/
  | resolution
      (reason : String)
  /-- A remote party cannot be reached or reports a failure. -/
  | transport
      (reason : String)
  /-- A metric value is no number. -/
  | parse
      (raw : String)
  /-- The requested period cannot be shown. -/
  | invalidRange
      (reason : String)
  /-- Nothing of the requested kind exists. -/
  | noData
      (reason : String)
  /-- A request parameter is out of bounds. -/
  | validation
      (reason : String)
  /-- A local store fails. -/
  | internal
      (reason : String)
  deriving DecidableEq, Repr

namespace DashboardError

/-- The wording shown to a client. -/
def message : DashboardError → String
  | tenantNotFound organization => "Organization not found: " ++ organization
  | configuration reason => "No primary stack configured: " ++ reason
  | resolution reason => "Invalid primary stack: " ++ reason
  | transport reason => "Metrics backend unreachable: " ++ reason
  | parse raw => "invalid metric value '" ++ raw ++ "'"
  | invalidRange reason => "Invalid range: " ++ reason
  | noData reason => "No data: " ++ reason
  | validation reason => "Invalid request: " ++ reason
  | internal reason => "Internal server error: " ++ reason

/-- The stable code shown next to the wording. -/
def code : DashboardError → String
  | tenantNotFound _ => "D_ORGANIZATION_NOT_FOUND"
  | configuration _ => "D_INVALID_PRIMARY_STACK"
  | resolution _ => "D_INVALID_PRIMARY_STACK"
  | transport _ => "D_BACKEND_UNREACHABLE"
  | parse _ => "D_INVALID_METRIC_VALUE"
  | invalidRange _ => "D_INVALID_RANGE"
  | noData _ => "D_NO_DATA"
  | validation _ => "D_INVALID_REQUEST"
  | internal _ => "D_INTERNAL"

/-- The status of a reply that reports the failure. -/
def status : DashboardError → Nat
  | tenantNotFound _ => 404
  | noData _ => 404
  | invalidRange _ => 400
  | validation _ => 400
  | transport _ => 502
  | configuration _ => 500
  | resolution _ => 500
  | parse _ => 500
  | internal _ => 500

end DashboardError
end FleetDashboard
