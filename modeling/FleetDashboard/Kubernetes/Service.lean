import FleetDashboard.Fault
import FleetDashboard.Json.Reader
import FleetDashboard.Kubernetes.Schema
import FleetDashboard.Text.Numeral

/-!
# Services as metrics endpoints

Of a service only four things matter: its type, the number and the name of its
first port, and the name under which its load balancer is reached from outside.
From these the address of a metrics backend is composed, or it is said which of
them is missing.
-/

namespace FleetDashboard
namespace Kubernetes

open Json

/-- What a metrics endpoint needs of a service. -/
structure ServiceEndpoint where
  /-- The type of the service. -/
  kind : String
  /-- The host name of the first way into its load balancer. -/
  hostname : Option String
  /-- Its first port. -/
  port : Option Int
  /-- The name of its first port's target, which is read as a scheme. -/
  scheme : Option String
  deriving DecidableEq, Repr

/-- Why a service is no metrics endpoint. -/
inductive EndpointFault where
  | notLoadBalancer
      (kind : String)
  | noScheme
  | noHostname
  | noPort
  deriving DecidableEq, Repr

namespace EndpointFault

/-- The wording of a fault. -/
def message : EndpointFault → String
  | notLoadBalancer kind => "Service type is not LoadBalancer [" ++ kind ++ "]"
  | noScheme => "Service port has no named target port"
  | noHostname => "Load balancer has no ingress hostname"
  | noPort => "Service exposes no port"

end EndpointFault

namespace ServiceEndpoint

/-- The type of a service that is reached from outside. -/
def loadBalancer : String := "LoadBalancer"

/-- The type of a service that names none. -/
def defaultKind : String := "ClusterIP"

/-- The value of the last member of a name, unless it is null. -/
def member?
    (name : String) : Json → Option Json
  | .object members =>
      match (valuesOf name members).getLast? with
      | some .null => none
      | value => value
  | _ => none

/-- The first item of a list. -/
def first? : Json → Option Json
  | .array items => items.head?
  | _ => none

/-- A text that is not empty. -/
def filledText? : Json → Option String
  | .string text => text.filter fun content => !content.isEmpty
  | _ => none

/-- The endpoint of a service that fits its schema. -/
def ofService
    (service : Json) : ServiceEndpoint :=
  let spec := member? "spec" service
  let port := ((spec.bind (member? "ports")).bind first?)
  let ingress :=
    (((member? "status" service).bind (member? "loadBalancer")).bind
      (member? "ingress")).bind first?
  { kind := (((spec.bind (member? "type")).bind decodeText)).getD defaultKind
    hostname := (ingress.bind (member? "hostname")).bind filledText?
    port := port.map fun port => ((member? "port" port).bind (decodeInt 32)).getD 0
    scheme := (port.bind (member? "targetPort")).bind filledText? }

/-- The endpoint of a service that is written as a document. -/
def read?
    (document : String) : Option ServiceEndpoint :=
  match Json.read? document with
  | some service => if Schema.service.fits service then some (ofService service) else none
  | none => none

/-- The address of an endpoint. -/
def compose
    (endpoint : ServiceEndpoint) : Except EndpointFault String :=
  if endpoint.kind ≠ loadBalancer then .error (.notLoadBalancer endpoint.kind)
  else
    match endpoint.scheme, endpoint.hostname, endpoint.port with
    | none, _, _ => .error .noScheme
    | some _, none, _ => .error .noHostname
    | some _, some _, none => .error .noPort
    | some scheme, some hostname, some port =>
        .ok (scheme ++ "://" ++ hostname ++ ":" ++ Text.intText port)

/-- The address of an endpoint, or the failure that a request reports. -/
def address
    (endpoint : ServiceEndpoint) : Except DashboardError String :=
  endpoint.compose.mapError fun fault => .resolution fault.message

end ServiceEndpoint
end Kubernetes
end FleetDashboard
