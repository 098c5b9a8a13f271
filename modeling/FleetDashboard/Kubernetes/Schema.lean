import FleetDashboard.Calendar.Timestamp
import FleetDashboard.Json.Record

/-!
# Schemas of cluster resources

The shape that a resource's value must have.  Members that a schema does not
name are ignored, named ones may be missing or null, and every occurrence of a
repeated member must fit although only the last one counts.
-/

namespace FleetDashboard
namespace Kubernetes

open Json

/-- The shape of a value. -/
inductive Schema where
  | text
  | truth
  | int
      (bits : Nat)
  | instant
  | textOrInt
  /-- One given text; null does not stand for it. -/
  | exactly
      (expected : String)
  /-- Any value that nests no deeper than a bound. -/
  | anything
      (depth : Nat)
  | list
      (item : Schema)
  /-- Members of any name with values of one shape. -/
  | map
      (value : Schema)
  | record
      (fields : List (String × Schema))
  deriving Repr

namespace Schema

/-- Null may stand for the value. -/
def admitsNull : Schema → Bool
  | exactly _ => false
  | _ => true

mutual

/-- The value has the shape. -/
def fits : Schema → Json → Bool
  | text, value => (decodeText value).isSome
  | truth, value => (decodeBool value).isSome
  | int bits, value => (decodeInt bits value).isSome
  | instant, value => ((decodeText value).bind Calendar.Timestamp.read?).isSome
  | textOrInt, value => (decodeText value).isSome || (decodeInt 32 value).isSome
  | exactly expected, value => decodeText value == some expected
  | anything depth, value => value.isHoldable depth
  | list item, value =>
      match value with
      | .array items => items.all (fits item)
      | _ => false
  | map shape, value =>
      match value with
      | .object members => members.all fun member => member.1.isSome && fits shape member.2
      | _ => false
  | record fields, value =>
      match value with
      | .object members =>
          members.all fun member =>
            match member.1 with
            | some key => memberFits fields key member.2
            | none => false
      | _ => false

/-- The value has the shape of the field of a given name, if there is one. -/
def memberFits : List (String × Schema) → String → Json → Bool
  | [], _, _ => true
  | (name, shape) :: rest, key, value =>
      if name = key then
        match value with
        | .null => shape.admitsNull
        | value => fits shape value
      else memberFits rest key value

end

/-- Fields that hold texts. -/
def texts
    (names : List String) : List (String × Schema) :=
  names.map fun name => (name, text)

/-- Deepest nesting of what a manager of fields keeps about them. -/
def managedDepth : Nat := 123

/-- An entry about a manager of fields. -/
def managedFields : Schema :=
  record <|
    texts ["apiVersion", "fieldsType", "manager", "operation", "subresource"] ++
      [("fieldsV1", anything managedDepth), ("time", instant)]

/-- A reference to an owner. -/
def ownerReference : Schema :=
  record <|
    texts ["apiVersion", "kind", "name", "uid"] ++
      [("blockOwnerDeletion", truth), ("controller", truth)]

/-- What every resource says about itself. -/
def metadata : Schema :=
  record <|
    texts ["generateName", "name", "namespace", "resourceVersion", "selfLink", "uid"] ++
      [("annotations", map text), ("labels", map text), ("creationTimestamp", instant),
        ("deletionTimestamp", instant), ("deletionGracePeriodSeconds", int 64),
        ("generation", int 64), ("finalizers", list text),
        ("managedFields", list managedFields), ("ownerReferences", list ownerReference)]

/-- A port of a service. -/
def servicePort : Schema :=
  record <|
    texts ["appProtocol", "name", "protocol"] ++
      [("nodePort", int 32), ("port", int 32), ("targetPort", textOrInt)]

/-- What a service is to be. -/
def serviceSpec : Schema :=
  record <|
    texts
        ["clusterIP", "externalName", "externalTrafficPolicy", "internalTrafficPolicy",
          "ipFamilyPolicy", "loadBalancerClass", "loadBalancerIP", "sessionAffinity",
          "trafficDistribution", "type"] ++
      [("allocateLoadBalancerNodePorts", truth), ("publishNotReadyAddresses", truth),
        ("clusterIPs", list text), ("externalIPs", list text), ("ipFamilies", list text),
        ("loadBalancerSourceRanges", list text), ("healthCheckNodePort", int 32),
        ("selector", map text),
        ("sessionAffinityConfig",
          record [("clientIP", record [("timeoutSeconds", int 32)])]),
        ("ports", list servicePort)]

/-- A way into a load balancer. -/
def ingress : Schema :=
  record <|
    texts ["hostname", "ip", "ipMode"] ++
      [("ports", list (record (texts ["error", "protocol"] ++ [("port", int 32)])))]

/-- A condition of a service. -/
def condition : Schema :=
  record <|
    texts ["message", "reason", "status", "type"] ++
      [("lastTransitionTime", instant), ("observedGeneration", int 64)]

/-- What a service has become. -/
def serviceStatus : Schema :=
  record
    [("conditions", list condition), ("loadBalancer", record [("ingress", list ingress)])]

/-- A service. -/
def service : Schema :=
  record
    [("apiVersion", exactly "v1"), ("kind", exactly "Service"), ("metadata", metadata),
      ("spec", serviceSpec), ("status", serviceStatus)]

end Schema
end Kubernetes
end FleetDashboard
