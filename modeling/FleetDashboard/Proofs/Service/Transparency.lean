import FleetDashboard.Proofs.Cache.Lookup
import FleetDashboard.Proofs.Service.History

/-!
# The cache is transparent while the world stays as it is

A session is truthful when the world vouches for all that it has cached.  In a
truthful session the result of a request depends on the world alone, and what the
request leaves behind is truthful again.  So while the world does not change, a
run answers every request as an empty cache would.
-/

namespace FleetDashboard

/-! ## Truthful sessions -/

/-- The world vouches for everything that is cached. -/
def Session.Truthful
    (world : World)
    (session : Session) : Prop :=
  ∀ entry ∈ session.cache.entries, world.Vouches entry.key entry.value

namespace Session.Truthful

variable {world : World} {session : Session}

theorem of_empty
    (empty : session.cache.entries = []) :
    session.Truthful world := by
  intro entry member
  rw [empty] at member
  exact absurd member List.not_mem_nil

/-- Whatever is visible in a truthful session is vouched for. -/
theorem lookup
    (truthful : session.Truthful world)
    {key value : String}
    (visible : session.lookup key = some value) :
    world.Vouches key value := by
  obtain ⟨entry, member, rfl, rfl, _⟩ := (Cache.lookup_eq_some_iff _ _ _ _).mp visible
  exact truthful entry member

theorem write
    (truthful : session.Truthful world)
    {key value : String}
    (vouches : world.Vouches key value) :
    (session.write key value).Truthful world := by
  intro entry member
  rcases (Cache.mem_entries_writeFor _ _ _ _ _ _).mp member with rfl | ⟨held, _⟩
  · exact vouches
  · exact truthful entry held

theorem purge
    (truthful : session.Truthful world) :
    session.purge.Truthful world := by
  intro entry member
  exact truthful entry ((Cache.mem_entries_purge _ _ _).mp member).1

end Session.Truthful

/-! ## Settled requests -/

namespace Request

/-- The result of a request is the same in all truthful sessions, and they stay
truthful. -/
def Settled
    (world : World)
    (α : Type)
    (request : Request α) : Prop :=
  ∃ result, ∀ session, session.Truthful world →
    (request.run world session).1 = result ∧ (request.run world session).2.Truthful world

theorem composesSearches_settled
    (world : World)
    (backend : String) :
    ComposesSearches backend (fun _ => True) (Settled world) where
  pure := fun value => ⟨.ok value, fun _ truthful => ⟨rfl, truthful⟩⟩
  bind := by
    intro α β request next settled nextSettled
    obtain ⟨result, yields⟩ := settled
    cases result with
    | error fault =>
        refine ⟨.error fault, ?_⟩
        intro session truthful
        obtain ⟨same, kept⟩ := yields session truthful
        rw [run_bind_of_error (Prod.ext same rfl)]
        exact ⟨rfl, kept⟩
    | ok value =>
        obtain ⟨last, lastYields⟩ := nextSettled value
        refine ⟨last, ?_⟩
        intro session truthful
        obtain ⟨same, kept⟩ := yields session truthful
        rw [run_bind_of_ok (Prod.ext same rfl)]
        exact lastYields _ kept
  question := fun call _ => ⟨world.answer backend call, fun _ truthful => ⟨rfl, truthful⟩⟩
  ofExcept := fun result => ⟨result, fun _ truthful => ⟨rfl, truthful⟩⟩
  metricsNamespace := fun _ nextSettled => nextSettled world.metricsNamespace

end Request

/-- A cached endpoint is the one that a search would find. -/
theorem Endpoint.settled
    (world : World)
    (organization : String) :
    Request.Settled world String (Endpoint.resolve organization) := by
  have composes := Request.composesSearches_settled world ""
  obtain ⟨result, yields⟩ := composes.find (fun _ _ => trivial) organization
  refine ⟨result, ?_⟩
  intro session truthful
  rw [Endpoint.resolve, Request.run_bind, Request.run_remembered]
  cases visible : session.lookup (Endpoint.key organization) with
  | some address =>
      have has := World.vouches_endpoint_iff.mp (truthful.lookup visible)
      have found := Endpoint.run_find_of_hasEndpoint has session
      exact ⟨found.symm.trans (yields session truthful).1, truthful⟩
  | none =>
      change ((Endpoint.discover organization).run world session).1 = result ∧
        ((Endpoint.discover organization).run world session).2.Truthful world
      obtain ⟨kept, finds⟩ :=
        Endpoint.ensures_find (fun _ _ _ kept => kept) organization session truthful
      obtain ⟨same, _⟩ := yields session truthful
      rw [Endpoint.discover_eq]
      cases result with
      | error fault =>
          rw [Request.run_bind_of_error (Prod.ext same rfl)]
          exact ⟨rfl, kept⟩
      | ok address =>
          rw [Request.run_bind_of_ok (Prod.ext same rfl)]
          exact ⟨rfl, kept.write (.endpoint (finds address same))⟩

/-! ## Names without a cache -/

namespace ClusterName

/-- The name that a look-up of a cluster yields: the one on record, or else its
id. -/
def shown
    (world : World)
    (cluster : String) : String :=
  match world.cluster cluster with
  | .ok (some record) => record.name
  | _ => cluster

theorem shown_of_hasName
    {world : World}
    {cluster name : String}
    (has : world.HasName cluster name) :
    shown world cluster = name := by
  obtain ⟨record, recorded, rfl⟩ := has
  rw [shown, recorded]

/-- A cluster without a name on record is shown under its id. -/
theorem shown_of_lacks
    {world : World}
    {cluster : String}
    (lacks : ∀ name, ¬world.HasName cluster name) :
    shown world cluster = cluster := by
  unfold shown
  match answered : world.cluster cluster with
  | .ok (some record) => exact absurd ⟨record, answered, rfl⟩ (lacks record.name)
  | .ok none => rfl
  | .error _ => rfl

/-- A look-up yields the shown name and caches it only if it is on record. -/
theorem run_discover
    {world : World}
    {session : Session}
    (truthful : session.Truthful world)
    (cluster : String) :
    ((discover cluster).run world session).1 = .ok (shown world cluster) ∧
      ((discover cluster).run world session).2.Truthful world := by
  rw [discover, Request.run_bind, Request.run_ask, shown]
  match answered : world.cluster cluster with
  | .ok (some record) =>
      have has : world.HasName cluster record.name := ⟨record, answered, rfl⟩
      exact ⟨rfl, truthful.write (.clusterName has)⟩
  | .ok none => exact ⟨rfl, truthful⟩
  | .error _ => exact ⟨rfl, truthful⟩

/-- A cached name is the one that a look-up would yield. -/
theorem settled
    (world : World)
    (cluster : String) :
    Request.Settled world String (resolve cluster) := by
  refine ⟨.ok (shown world cluster), ?_⟩
  intro session truthful
  rw [resolve, Request.run_bind, Request.run_remembered]
  cases visible : session.lookup (key cluster) with
  | some name =>
      have has := World.vouches_clusterName_iff.mp (truthful.lookup visible)
      rw [shown_of_hasName has]
      exact ⟨rfl, truthful⟩
  | none => exact run_discover truthful cluster

end ClusterName

theorem Request.composesDashboard_settled
    (world : World) :
    ComposesDashboard (fun _ => True) (Request.Settled world) where
  searches := Request.composesSearches_settled world
  clusterName := ClusterName.settled world
  endpoint := Endpoint.settled world

/-! ## Runs in a world that does not change -/

namespace RunState

variable {world : World}

theorem answer_of_settled
    {request : Request α}
    (settled : Request.Settled world α request)
    (outcome : Except DashboardError α → Outcome) :
    ∃ told, ∀ session, session.Truthful world →
      ((RunState.mk world session).answer request outcome).1 = told ∧
        ∃ after, after.Truthful world ∧
          ((RunState.mk world session).answer request outcome).2 = ⟨world, after⟩ := by
  obtain ⟨result, yields⟩ := settled
  refine ⟨outcome result, ?_⟩
  intro session truthful
  obtain ⟨same, kept⟩ := yields session truthful
  exact ⟨congrArg outcome same, _, kept, rfl⟩

/-- In truthful sessions a request has one outcome, and it leaves the world and
their truthfulness alone. -/
theorem step_of_isRequest
    {step : Step}
    (isRequest : step.isRequest) :
    ∃ told, ∀ session, session.Truthful world →
      ((RunState.mk world session).step step).1 = told ∧
        ∃ after, after.Truthful world ∧
          ((RunState.mk world session).step step).2 = ⟨world, after⟩ := by
  have settled := Request.composesDashboard_settled world
  cases step with
  | charts organization chartType parameters now =>
      exact answer_of_settled
        (settled.charts (fun _ _ => trivial) organization chartType parameters now) .charts
  | summaries organization =>
      exact answer_of_settled (settled.summaries (fun _ => trivial) organization) .summaries
  | resources organization =>
      exact answer_of_settled (settled.resources (fun _ => trivial) organization) .resources
  | endpoint organization => exact answer_of_settled (settled.endpoint organization) .endpoint
  | clusterName cluster => exact answer_of_settled (settled.clusterName cluster) .clusterName
  | advance | purge | change => cases isRequest

/-- Every step but a change of the world leaves the world and the truthfulness of
the session alone. -/
theorem step_of_truthful
    {session : Session}
    (truthful : session.Truthful world)
    {step : Step}
    (unchanging : ∀ other, step ≠ .change other) :
    ∃ after, after.Truthful world ∧
      ((RunState.mk world session).step step).2 = ⟨world, after⟩ := by
  cases isRequest : step.isRequest with
  | true =>
      obtain ⟨_, answers⟩ := step_of_isRequest isRequest
      exact (answers session truthful).2
  | false =>
      cases step with
      | advance duration => exact ⟨session.advance duration, truthful, rfl⟩
      | purge => exact ⟨session.purge, truthful.purge, rfl⟩
      | change other => exact absurd rfl (unchanging other)
      | charts | summaries | resources | endpoint | clusterName => cases isRequest

theorem outcomes_of_truthful
    {session fresh : Session}
    (truthful : session.Truthful world)
    (freshTruthful : fresh.Truthful world)
    {steps : List Step}
    (unchanging : ∀ other, .change other ∉ steps) :
    List.Forall₂
      (fun step outcome =>
        step.isRequest → outcome = ((RunState.mk world fresh).step step).1)
      steps ((RunState.mk world session).run steps).1 := by
  induction steps generalizing session with
  | nil => exact .nil
  | cons step rest inductionHypothesis =>
      have stays : ∀ other, step ≠ .change other := by
        rintro other rfl
        exact unchanging other List.mem_cons_self
      obtain ⟨after, afterTruthful, same⟩ := step_of_truthful truthful stays
      rw [run_cons, same]
      refine .cons ?_ ?_
      · intro isRequest
        obtain ⟨told, answers⟩ := step_of_isRequest isRequest
        exact (answers session truthful).1.trans (answers fresh freshTruthful).1.symm
      · refine inductionHypothesis afterTruthful ?_
        intro other member
        exact unchanging other (List.mem_cons_of_mem step member)

/-- While the world stays as it is, every request of a run that begins with an
empty cache has the outcome that it has on an empty cache. -/
theorem outcomes_eq_uncached
    (world : World)
    (start fresh : Session)
    (steps : List Step)
    (startEmpty : start.cache.entries = [])
    (freshEmpty : fresh.cache.entries = [])
    (unchanging : ∀ other, .change other ∉ steps) :
    List.Forall₂
      (fun step outcome =>
        step.isRequest → outcome = ((RunState.mk world fresh).step step).1)
      steps ((RunState.mk world start).run steps).1 :=
  outcomes_of_truthful (.of_empty startEmpty) (.of_empty freshEmpty) unchanging

/-- A name is found, kept, found in the cache, dropped and found again, and an
endpoint is sought in vain in between: each time as without a cache. -/
theorem sample_outcomes_eq_uncached :
    (∀ other, Step.change other ∉
        [.clusterName "c1", .advance 4, .clusterName "c1", .endpoint "nobody", .advance 1,
          .purge, .clusterName "c1"]) ∧
      List.Forall₂
        (fun step outcome =>
          step.isRequest →
            outcome = ((RunState.mk World.sample (.begin 0)).step step).1)
        [.clusterName "c1", .advance 4, .clusterName "c1", .endpoint "nobody", .advance 1,
          .purge, .clusterName "c1"]
        ((RunState.mk World.sample (.begin 5)).run
          [.clusterName "c1", .advance 4, .clusterName "c1", .endpoint "nobody", .advance 1,
            .purge, .clusterName "c1"]).1 := by
  have unchanging : ∀ other, Step.change other ∉
      [.clusterName "c1", .advance 4, .clusterName "c1", .endpoint "nobody", .advance 1,
        .purge, .clusterName "c1"] := by simp
  exact ⟨unchanging,
    outcomes_eq_uncached World.sample (.begin 5) (.begin 0) _ rfl rfl unchanging⟩

end RunState
end FleetDashboard
