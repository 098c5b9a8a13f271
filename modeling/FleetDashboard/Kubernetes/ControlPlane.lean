import FleetDashboard.Deadline
import FleetDashboard.Kubernetes.Service
import FleetDashboard.Text.Utf8

/-!
# The control plane

The admin cluster keeps, for every managed cluster, a secret with the
configuration of a client of that cluster.  With such a client the services of
the managed cluster are looked up.  Each call to a cluster is under a deadline.
-/

namespace FleetDashboard
namespace Kubernetes

/-- What a cluster answers when it is asked for a resource. -/
inductive ResourceAnswer (α : Type) where
  | failed
      (cause : String)
  | absent
  | found
      (resource : α)
  deriving DecidableEq, Repr

/-- A secret: its entries, if it has any. -/
structure Secret where
  entries : Option (List (String × List UInt8))
  deriving DecidableEq, Repr

namespace Secret

/-- The entry that holds the configuration of a client. -/
def configurationKey : String := "value"

/-- The name of the secret about a managed cluster.  The secret lies in a
namespace that is named after the cluster. -/
def nameFor
    (cluster : String) : String :=
  cluster ++ "-tks-kubeconfig"

/-- The namespace and the name of the secret about a managed cluster. -/
def pathFor
    (cluster : String) : String :=
  cluster ++ "/" ++ nameFor cluster

/-- The entry of a key. -/
def entry?
    (secret : Secret)
    (key : String) : Option (List UInt8) :=
  (secret.entries.bind fun entries => entries.find? fun entry => entry.1 == key).map Prod.snd

/-- The configuration of a client of a managed cluster, given what the admin
cluster answers about its secret. -/
def configuration
    (cluster : String) : ResourceAnswer Secret → Except DashboardError String
  | .failed cause =>
      .error (.transport ("Failed to read secret " ++ pathFor cluster ++ ": " ++ cause))
  | .absent => .error (.resolution ("Kubeconfig secret " ++ pathFor cluster ++ " not found"))
  | .found secret =>
      match secret.entry? configurationKey with
      | none =>
          .error (.resolution
            ("Secret " ++ pathFor cluster ++ " has no '" ++ configurationKey ++ "' key"))
      | some bytes =>
          match Text.Utf8.decode bytes with
          | some characters => .ok (String.ofList characters)
          | none =>
              .error (.resolution ("Kubeconfig of cluster " ++ cluster ++ " is not UTF-8"))

end Secret

/-- The clusters that can be asked. -/
structure ControlPlane where
  /-- Longest time to wait for an answer, in nanoseconds. -/
  deadline : Nat
  /-- What the admin cluster answers about the secret of a managed cluster. -/
  secret : String → Awaited (ResourceAnswer Secret)
  /-- Why a configuration makes no client, if it makes none. -/
  clientFault? : String → Option String
  /-- What a managed cluster answers about the service of a namespace and name. -/
  service : String → String → String → Awaited (ResourceAnswer String)

namespace ControlPlane

/-- Make a client of a managed cluster. -/
def client
    (plane : ControlPlane)
    (cluster : String) : Except DashboardError Unit := do
  let configuration ←
    ((plane.secret cluster).map (Secret.configuration cluster)).within plane.deadline
      "kubeconfig lookup"
  match plane.clientFault? configuration with
  | some cause =>
      .error (.resolution ("Failed to build client for cluster " ++ cluster ++ ": " ++ cause))
  | none => .ok ()

/-- The failure of a look-up of a service. -/
def lookupFailed
    (space name cause : String) : DashboardError :=
  .transport ("Failed to get service " ++ space ++ "/" ++ name ++ ": " ++ cause)

/-- The endpoint in an answer about a service.  A document that is no service is
a failed look-up. -/
def endpointOf
    (space name : String) :
    ResourceAnswer String → Except DashboardError (Option ServiceEndpoint)
  | .failed cause => .error (lookupFailed space name cause)
  | .absent => .ok none
  | .found document =>
      match ServiceEndpoint.read? document with
      | some endpoint => .ok (some endpoint)
      | none => .error (lookupFailed space name "document is no service")

/-- Look a service of a managed cluster up. -/
def endpoint?
    (plane : ControlPlane)
    (cluster space name : String) : Except DashboardError (Option ServiceEndpoint) :=
  ((plane.service cluster space name).map (endpointOf space name)).within plane.deadline
    "service lookup"

end ControlPlane
end Kubernetes
end FleetDashboard
