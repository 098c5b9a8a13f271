import FleetDashboard.Proofs.Request.Ensures
import FleetDashboard.Service.Dashboard

/-!
# What is true in a world

A world says where an organization's metrics are found and what a cluster is
called.  These are the only facts that are worth caching: each of them vouches
for a text under a key, and a fresh look-up yields a text exactly when the world
vouches for it.
-/

namespace FleetDashboard

open Kubernetes

namespace World

/-- The service of a cluster that is taken as its metrics endpoint: the preferred
one, or the plain one when the preferred one is absent. -/
def Offers
    (world : World)
    (cluster : String)
    (endpoint : ServiceEndpoint) : Prop :=
  let service := world.service cluster world.metricsNamespace
  service Endpoint.preferredService = .ok (some endpoint) ∨
    service Endpoint.preferredService = .ok none ∧
      service Endpoint.plainService = .ok (some endpoint)

/-- The organization is on record with a primary cluster that is not blank, and
the service offered there has this address. -/
def HasEndpoint
    (world : World)
    (organization address : String) : Prop :=
  ∃ record primary endpoint,
    world.organization organization = .ok (some record) ∧
      record.primaryClusterId = some primary ∧ Text.trim primary ≠ "" ∧
      world.registry (Text.trim primary) = .ok () ∧
      world.Offers (Text.trim primary) endpoint ∧ endpoint.compose = .ok address

/-- The cluster is on record under this name. -/
def HasName
    (world : World)
    (cluster name : String) : Prop :=
  ∃ record, world.cluster cluster = .ok (some record) ∧ record.name = name

/-- The world vouches for a text under a cache key. -/
inductive Vouches
    (world : World) : String → String → Prop
  | endpoint
      {organization address : String}
      (found : world.HasEndpoint organization address) :
      Vouches world (Endpoint.key organization) address
  | clusterName
      {cluster name : String}
      (found : world.HasName cluster name) :
      Vouches world (ClusterName.key cluster) name

end World

/-- A small world: one organization, whose metrics are found behind the plain query
service of its only cluster and tell of that cluster alone. -/
def World.sample : World where
  organization := fun id =>
    .ok (if id = "acme" then some ⟨"acme", "Acme", some " c1 "⟩ else none)
  clustersOf := fun _ => .ok []
  cluster := fun id =>
    .ok (if id = "c1" then some ⟨"c1", "acme", "alpha", "", .running, ⟨0, 0⟩⟩ else none)
  podRestarts := fun _ _ _ => .ok []
  registry := fun _ => .ok ()
  service := fun _ _ name =>
    .ok (if name = Endpoint.plainService then
      some ⟨ServiceEndpoint.loadBalancer, some "thanos", some 9090, some "http"⟩ else none)
  connect := fun _ => .ok ()
  instantQuery := fun _ _ => .ok []
  rangeQuery := fun _ _ _ _ _ => .ok [⟨[(Metrics.Labels.clusterName, "c1")], []⟩]
  metricsNamespace := "lma"

/-! ## Keys -/

/-- Texts that are equal with something appended begin with the same character. -/
private theorem head?_eq_of_append_eq
    {front other left right : String}
    (same : front ++ left = other ++ right)
    (filled : front.toList ≠ [])
    (otherFilled : other.toList ≠ []) :
    front.toList.head? = other.toList.head? := by
  have characters := congrArg String.toList same
  rw [String.toList_append, String.toList_append] at characters
  obtain ⟨first, rest, frontCharacters⟩ := List.exists_cons_of_ne_nil filled
  obtain ⟨otherFirst, otherRest, otherCharacters⟩ := List.exists_cons_of_ne_nil otherFilled
  rw [frontCharacters, otherCharacters] at characters ⊢
  exact congrArg some (List.cons.inj characters).1

namespace Endpoint

theorem key_injective
    {left right : String}
    (same : key left = key right) :
    left = right :=
  (String.append_right_inj _).mp same

/-- No organization's key is a cluster's key, whatever their ids look like. -/
theorem key_ne_clusterNameKey
    (organization cluster : String) :
    key organization ≠ ClusterName.key cluster := by
  intro same
  have firstCharacters := head?_eq_of_append_eq same (by decide) (by decide)
  exact absurd firstCharacters (by decide)

end Endpoint

namespace ClusterName

theorem key_injective
    {left right : String}
    (same : key left = key right) :
    left = right :=
  (String.append_right_inj _).mp same

end ClusterName

namespace World

theorem vouches_endpoint_iff
    {world : World}
    {organization address : String} :
    world.Vouches (Endpoint.key organization) address ↔
      world.HasEndpoint organization address := by
  constructor
  · generalize same : Endpoint.key organization = key
    intro vouches
    cases vouches with
    | endpoint found =>
        rw [Endpoint.key_injective same]
        exact found
    | clusterName => exact absurd same (Endpoint.key_ne_clusterNameKey _ _)
  · exact .endpoint

theorem vouches_clusterName_iff
    {world : World}
    {cluster name : String} :
    world.Vouches (ClusterName.key cluster) name ↔ world.HasName cluster name := by
  constructor
  · generalize same : ClusterName.key cluster = key
    intro vouches
    cases vouches with
    | endpoint => exact absurd same.symm (Endpoint.key_ne_clusterNameKey _ _)
    | clusterName found =>
        rw [ClusterName.key_injective same]
        exact found
  · exact .clusterName

end World
end FleetDashboard
