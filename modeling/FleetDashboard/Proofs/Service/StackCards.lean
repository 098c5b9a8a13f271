import FleetDashboard.Proofs.Order.StableSort
import FleetDashboard.Proofs.Request.Ensures
import FleetDashboard.Proofs.Service.Truth
import FleetDashboard.Service.Dashboard
import FleetDashboard.Service.Platform
import Mathlib.Data.Bool.Basic

/-!
# A card for every cluster

The cards of an organization are its clusters, one by one: those of running clusters come
first, then the others, and within each group they stand as the clusters are registered.
Each card shows its own cluster and the shares that the samples give for the id of that
cluster.
-/

namespace FleetDashboard

open Metrics

/-! ## The order of cards -/

namespace StackSummary

/-- Bringing running clusters to the front is a sort by whether a cluster does not run, and
it leaves ties alone. -/
theorem isStablySorted_runningFirst
    (summaries : List StackSummary) :
    IsStablySorted (fun summary => !summary.isRunning) summaries (runningFirst summaries) := by
  have running : (summaries.filter isRunning).Pairwise
      fun earlier later => (!earlier.isRunning) ≤ (!later.isRunning) := by
    refine List.pairwise_of_forall_mem_list ?_
    intro earlier isEarlier later _
    rw [(List.mem_filter.mp isEarlier).2]
    exact Bool.false_le _
  have others : (summaries.filter fun summary => !summary.isRunning).Pairwise
      fun earlier later => (!earlier.isRunning) ≤ (!later.isRunning) := by
    refine List.pairwise_of_forall_mem_list ?_
    intro earlier _ later isLater
    rw [(List.mem_filter.mp isLater).2]
    exact Bool.le_true _
  have parts := (IsStablySorted.refl_of_ordered running).append (.refl_of_ordered others) <| by
    intro earlier isEarlier later _
    rw [(List.mem_filter.mp isEarlier).2]
    exact Bool.false_le _
  refine parts.of_groups ?_
  intro stands
  rw [List.filter_append, List.filter_filter, List.filter_filter]
  -- one of the two parts is the group, and the other one has none of it
  cases stands with
  | false => simp
  | true => simp

/-- The order of the cards is that of a stable sort. -/
theorem runningFirst_eq_mergeSort
    (summaries : List StackSummary) :
    runningFirst summaries =
      summaries.mergeSort fun left right => (!left.isRunning) ≤ (!right.isRunning) :=
  (isStablySorted_runningFirst summaries).unique (.mergeSort summaries)

@[simp] theorem runningFirst_runningFirst
    (summaries : List StackSummary) :
    runningFirst (runningFirst summaries) = runningFirst summaries :=
  (isStablySorted_runningFirst _).unique (isStablySorted_runningFirst summaries).again

/-! ## What a card shows -/

/-- The text shows a share with its unit, and nothing for an unknown share. -/
def ShowsShare
    (share shown : String) : Prop :=
  (share = "" → shown = "") ∧ (share ≠ "" → shown = share ++ " %")

/-- The card shows a cluster, and of what has been sampled the shares of that cluster. -/
structure ShowsCluster
    (memoryDisk load : List Sample)
    (cluster : Cluster)
    (card : StackSummary) : Prop where
  id : card.id = cluster.id
  name : card.name = cluster.name
  description : card.description = cluster.description
  status : card.status = cluster.status
  createdAt : card.createdAt = cluster.createdAt
  cpu : ShowsShare (StackUtilization.ofSamples cluster.id memoryDisk load).cpu card.cpu
  memory : ShowsShare (StackUtilization.ofSamples cluster.id memoryDisk load).memory card.memory
  storage : ShowsShare (StackUtilization.ofSamples cluster.id memoryDisk load).disk card.storage

theorem showsShare_withUnit
    (share : String) :
    ShowsShare share (withUnit share) := by
  constructor
  · rintro rfl
    rfl
  · intro known
    rw [withUnit, if_neg (by simpa using known)]

theorem showsCluster_ofCluster
    (memoryDisk load : List Sample)
    (cluster : Cluster) :
    ShowsCluster memoryDisk load cluster
      (ofCluster cluster (.ofSamples cluster.id memoryDisk load)) where
  id := rfl
  name := rfl
  description := rfl
  status := rfl
  createdAt := rfl
  cpu := showsShare_withUnit _
  memory := showsShare_withUnit _
  storage := showsShare_withUnit _

/-- Running clusters, then the others, in the order of the registry. -/
def arranged
    (clusters : List Cluster) : List Cluster :=
  clusters.filter (·.status = .running) ++ clusters.filter (·.status ≠ .running)

theorem arranged_perm
    (clusters : List Cluster) :
    (arranged clusters).Perm clusters := by
  have parts := List.filter_append_perm (fun cluster : Cluster => cluster.status = .running)
    clusters
  simpa only [arranged, decide_not] using parts

/-- The cards show the clusters in the order in which these have been arranged. -/
theorem ofSamples_eq_map_arranged
    (clusters : List Cluster)
    (memoryDisk load : List Sample) :
    ofSamples clusters memoryDisk load =
      (arranged clusters).map fun cluster =>
        ofCluster cluster (.ofSamples cluster.id memoryDisk load) := by
  have runs (cluster : Cluster) (utilization : StackUtilization) :
      (ofCluster cluster utilization).isRunning = decide (cluster.status = .running) :=
    beq_eq_decide _ _
  simp only [ofSamples, runningFirst, arranged, List.filter_map, List.map_append,
    Function.comp_def, runs, decide_not]

theorem forall₂_showsCluster_ofSamples
    (clusters : List Cluster)
    (memoryDisk load : List Sample) :
    List.Forall₂ (ShowsCluster memoryDisk load) (arranged clusters)
      (ofSamples clusters memoryDisk load) := by
  rw [ofSamples_eq_map_arranged, List.forall₂_map_right_iff]
  exact List.forall₂_same.mpr fun cluster _ => showsCluster_ofCluster memoryDisk load cluster

end StackSummary

/-! ## The request for cards -/

namespace Platform

/-- The clusters of an organization are those in the file of clusters. -/
theorem clustersOf_eq_filter
    {platform : Platform}
    {organization : String}
    {records clusters : List Cluster}
    (recorded : platform.directory.allClusters = .ok records)
    (answered : platform.world.clustersOf organization = .ok clusters) :
    clusters = records.filter (·.organization = organization) := by
  have found := mapError_eq_ok_iff.mp answered
  rw [DataDirectory.clustersOf, recorded] at found
  refine (Except.ok.inj found).symm.trans ?_
  exact List.filter_congr fun _ _ => beq_eq_decide _ _

end Platform

namespace Dashboard

open StackSummary

/-- What a request for cards that succeeds has been told, and what it makes of that. -/
theorem exists_answers_of_summaries
    {world : World}
    {organization : String}
    {session : Session}
    {cards : List StackSummary}
    (succeeds : ((summaries organization).run world session).1 = .ok cards) :
    ∃ backend clusters memoryDisk load,
      ((Endpoint.backend organization).run world session).1 = .ok backend ∧
      world.clustersOf organization = .ok clusters ∧
      world.instantQuery backend memoryDiskQuery = .ok memoryDisk ∧
      world.instantQuery backend loadQuery = .ok load ∧
      cards = ofSamples clusters memoryDisk load := by
  obtain ⟨after, runs⟩ : ∃ after, (summaries organization).run world session = (.ok cards, after) :=
    ⟨_, Prod.ext succeeds rfl⟩
  rw [summaries] at runs
  obtain ⟨backend, reached, reaches, runs⟩ := Request.run_bind_eq_ok_iff.mp runs
  obtain ⟨found, listed, lists, runs⟩ := Request.run_bind_eq_ok_iff.mp runs
  obtain ⟨memoryDisk, sampled, samples, runs⟩ := Request.run_bind_eq_ok_iff.mp runs
  obtain ⟨load, loaded, loads, runs⟩ := Request.run_bind_eq_ok_iff.mp runs
  refine ⟨backend, found, memoryDisk, load, congrArg Prod.fst reaches, ?_,
    congrArg Prod.fst samples, congrArg Prod.fst loads, ?_⟩
  · exact mapError_eq_ok_iff.mp (congrArg Prod.fst lists)
  · exact (Except.ok.inj (congrArg Prod.fst runs)).symm

/-- A request for cards that succeeds shows every cluster of the organization once, also if
ids repeat: the running ones first, then the others, each group in the order of the
registry.  A card shows the data of its cluster as they are registered, and the shares that
the two answers of the backend give for the id of that cluster.  This is the order of a
stable sort by whether a cluster runs, so sorting once more changes nothing. -/
theorem summaries_show_every_cluster
    {world : World}
    {organization : String}
    {session : Session}
    {cards : List StackSummary}
    (succeeds : ((summaries organization).run world session).1 = .ok cards) :
    ∃ backend clusters memoryDisk load,
      (((Endpoint.backend organization).run world session).1 = .ok backend ∧
        world.clustersOf organization = .ok clusters ∧
        world.instantQuery backend memoryDiskQuery = .ok memoryDisk ∧
        world.instantQuery backend loadQuery = .ok load) ∧
      (∀ platform : Platform, platform.world = world →
        ∀ records, platform.directory.allClusters = .ok records →
          clusters = records.filter (·.organization = organization)) ∧
      List.Forall₂ (ShowsCluster memoryDisk load)
        (clusters.filter (·.status = .running) ++ clusters.filter (·.status ≠ .running)) cards ∧
      cards.length = clusters.length ∧
      cards =
        (clusters.map fun cluster =>
            ofCluster cluster (.ofSamples cluster.id memoryDisk load)).mergeSort
          (fun left right => (left.status != .running) ≤ (right.status != .running)) ∧
      runningFirst cards = cards := by
  obtain ⟨backend, clusters, memoryDisk, load, reached, listed, sampled, loaded, rfl⟩ :=
    exists_answers_of_summaries succeeds
  refine ⟨backend, clusters, memoryDisk, load, ⟨reached, listed, sampled, loaded⟩, ?_,
    forall₂_showsCluster_ofSamples clusters memoryDisk load, ?_,
    runningFirst_eq_mergeSort _, runningFirst_runningFirst _⟩
  · rintro platform rfl records recorded
    exact Platform.clustersOf_eq_filter recorded listed
  · rw [ofSamples_eq_map_arranged, List.length_map, (arranged_perm clusters).length_eq]

/-- Two clusters share an id, and one of them runs: both cards show the load of that id, and
the running one stands behind the other running cluster, which is registered before it. -/
theorem sample_summaries_show_every_cluster :
    let alpha : Cluster := ⟨"c1", "acme", "alpha", "", .error, ⟨0, 0⟩⟩
    let beta : Cluster := ⟨"c2", "acme", "beta", "", .running, ⟨0, 0⟩⟩
    let gamma : Cluster := ⟨"c1", "acme", "gamma", "", .running, ⟨0, 0⟩⟩
    let samples : List Sample := [⟨[(Labels.clusterName, "c1")], ⟨.zero false, "12.5"⟩⟩]
    let world : World :=
      { World.sample with
        clustersOf := fun _ => .ok [alpha, beta, gamma]
        instantQuery := fun _ _ => .ok samples }
    ∃ cards, ((summaries "acme").run world (.begin 10)).1 = .ok cards ∧
      List.Forall₂ (ShowsCluster samples samples) [beta, gamma, alpha] cards ∧
      cards.map cpu = ["", "12.50 %", "12.50 %"] ∧ runningFirst cards = cards := by
  intro alpha beta gamma samples world
  have succeeds : ((summaries "acme").run world (.begin 10)).1 =
      .ok (ofSamples [alpha, beta, gamma] samples samples) := rfl
  obtain ⟨_, _, _, _, ⟨_, ⟨⟩, ⟨⟩, ⟨⟩⟩, _, shown, _, _, again⟩ :=
    summaries_show_every_cluster succeeds
  exact ⟨_, succeeds, shown, by decide +kernel, again⟩

end Dashboard
end FleetDashboard
