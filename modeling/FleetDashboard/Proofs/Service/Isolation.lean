import FleetDashboard.Proofs.Service.Consultation
import FleetDashboard.Proofs.Service.Selection

/-!
# Endpoints are isolated between organizations

What is cached for one organization is touched by requests about that organization
alone.  So a run resolves its endpoint as if the others were not there.
-/

namespace FleetDashboard

/-! ## Steps and their first stages -/

namespace Step

/-- The step is a request about the organization, or it lets time pass or changes the
world for everyone. -/
def concerns
    (organization : String) : Step → Bool
  | .advance _ | .change _ => true
  | step => step.organization? == some organization

/-- The first stage of a request about an organization.  It resolves the endpoint; a
request that shows something then reaches the backend, and one for charts looks for the
tenant before that. -/
def stage? : Step → Option (Request String)
  | .charts organization chartType _ _ =>
      match ChartSelection.read chartType with
      | .ok _ => some (Dashboard.opening organization)
      | .error _ => none
  | .summaries organization => some (Endpoint.backend organization)
  | .resources organization => some (Endpoint.backend organization)
  | .endpoint organization => some (Endpoint.resolve organization)
  | _ => none

/-- The step serves a request that begins with a stage and goes on from the address that
it yields. -/
def BeginsWith
    (step : Step)
    (stage : Request String) : Prop :=
  ∃ (α : Type) (next : String → Request α) (outcome : Except DashboardError α → Outcome),
    ∀ state : RunState, state.step step = state.answer (stage >>= next) outcome

end Step

/-! ## What leaves an endpoint alone -/

/-- The names of clusters are cached apart from all endpoints. -/
theorem Session.Leaves.composesCharts
    (world : World)
    (organization backend : String) :
    ComposesCharts backend (fun _ => True)
      (Request.LeadsIn world (Leaves (Endpoint.key organization))) where
  toComposes := (composesSearches world (Endpoint.key organization) backend).toComposes
  clusterName := fun cluster =>
    ClusterName.leaves_resolve fun _ _ => Endpoint.key_ne_clusterNameKey organization cluster

/-- After its first stage a request leaves the endpoint alone. -/
theorem Step.exists_rest
    {step : Step}
    {organization : String}
    (about : step.organization? = some organization)
    {stage : Request String}
    (starts : step.stage? = some stage) :
    ∃ (α : Type) (next : String → Request α) (outcome : Except DashboardError α → Outcome),
      (∀ state : RunState, state.step step = state.answer (stage >>= next) outcome) ∧
        ∀ world backend,
          Request.LeadsIn world (Session.Leaves (Endpoint.key organization)) α (next backend) := by
  cases step with
  | charts owner chartType parameters now =>
      cases about
      cases reads : ChartSelection.read chartType with
      | error unknown =>
          rw [stage?, reads] at starts
          cases starts
      | ok selection =>
          rw [stage?, reads] at starts
          cases starts
          refine ⟨_, fun backend =>
            selection.kinds.mapM (Dashboard.chart organization backend parameters now), .charts,
            ?_, ?_⟩
          · intro state
            rw [RunState.step, Dashboard.charts_of_read reads]
          · intro world backend
            have searches :=
              Session.Leaves.composesSearches world (Endpoint.key organization) backend
            refine searches.mapM ?_
            intro kind _
            exact (Session.Leaves.composesCharts world organization backend).chart (by simp)
              (by simp) fun _ => searches.ofExcept _
  | summaries owner =>
      cases about
      cases starts
      refine ⟨_, Dashboard.summariesAt organization, .summaries, fun _ => rfl, ?_⟩
      intro world backend
      exact (Session.Leaves.composesSearches world _ backend).summariesAt organization trivial
        fun _ => trivial
  | resources owner =>
      cases about
      cases starts
      refine ⟨_, Dashboard.resourcesAt organization, .resources, fun _ => rfl, ?_⟩
      intro world backend
      exact (Session.Leaves.composesSearches world _ backend).resourcesAt organization trivial
        fun _ => trivial
  | endpoint owner =>
      cases about
      cases starts
      refine ⟨_, pure, .endpoint, ?_, ?_⟩
      · intro state
        rw [bind_pure, RunState.step]
      · intro world backend
        exact (Session.Leaves.composesSearches world _ backend).pure backend
  | _ => cases about

/-! ## Stages in two sessions -/

namespace Session

/-- Two sessions show the same text for a key, and since earlier times the same calls have
been made in both. -/
def Accords
    (key : String)
    (leftEarlier rightEarlier : List Call)
    (left right : Session) : Prop :=
  left.SharesText key right ∧
    ∃ made, left.calls = leftEarlier ++ made ∧ right.calls = rightEarlier ++ made

namespace Accords

variable
  {key : String}
  {leftEarlier rightEarlier : List Call}
  {left right : Session}

theorem of_sharesText
    (shares : left.SharesText key right) :
    left.Accords key left.calls right.calls right :=
  ⟨shares, [], (List.append_nil _).symm, (List.append_nil _).symm⟩

theorem log
    (call : Call)
    (left right : Session)
    (accords : left.Accords key leftEarlier rightEarlier right) :
    (left.log call).Accords key leftEarlier rightEarlier (right.log call) := by
  obtain ⟨⟨clock, lifetime, text⟩, made, leftCalls, rightCalls⟩ := accords
  refine ⟨⟨clock, lifetime, text⟩, made ++ [call], ?_, ?_⟩
  · rw [calls_log, leftCalls, List.append_assoc]
  · rw [calls_log, rightCalls, List.append_assoc]

theorem composesSearches
    (world : World)
    (key : String)
    (leftEarlier rightEarlier : List Call)
    (backend : String) :
    ComposesSearches backend (fun _ => True) fun _ request =>
      Request.Paired world world (Accords key leftEarlier rightEarlier) Eq request request :=
  Request.composesSearches_paired world log backend

end Accords
end Session

section Stages

variable
  (world : World)
  (organization : String)
  (leftEarlier rightEarlier : List Call)

/-- The resolution of an endpoint depends on nothing in a session but the cached text. -/
theorem Endpoint.paired_resolve :
    Request.Paired world world (Session.Accords (key organization) leftEarlier rightEarlier) Eq
      (resolve organization) (resolve organization) := by
  apply (Session.Accords.composesSearches world _ leftEarlier rightEarlier "").resolve
    fun _ _ => trivial
  · exact .remembered fun _ _ accords => accords.1.lookup
  · intro address
    exact .remember fun _ _ accords => ⟨accords.1.write _ _, accords.2⟩

theorem Endpoint.paired_backend :
    Request.Paired world world (Session.Accords (key organization) leftEarlier rightEarlier) Eq
      (backend organization) (backend organization) :=
  (Session.Accords.composesSearches world _ leftEarlier rightEarlier "").connected
    (fun _ => trivial) (paired_resolve world organization leftEarlier rightEarlier)

/-- Nor does any other first stage. -/
theorem Step.paired_stage
    {step : Step}
    {organization : String}
    (about : step.organization? = some organization)
    {stage : Request String}
    (starts : step.stage? = some stage) :
    Request.Paired world world
      (Session.Accords (Endpoint.key organization) leftEarlier rightEarlier) Eq stage stage := by
  have backend := Endpoint.paired_backend world organization leftEarlier rightEarlier
  cases step with
  | charts owner chartType parameters now =>
      cases about
      cases reads : ChartSelection.read chartType with
      | error unknown =>
          rw [stage?, reads] at starts
          cases starts
      | ok selection =>
          rw [stage?, reads] at starts
          cases starts
          have searches :=
            Session.Accords.composesSearches world (Endpoint.key organization) leftEarlier
              rightEarlier ""
          apply searches.bind _ _ (searches.tenant trivial)
          intro _
          exact backend
  | summaries owner =>
      cases about
      cases starts
      exact backend
  | resources owner =>
      cases about
      cases starts
      exact backend
  | endpoint owner =>
      cases about
      cases starts
      exact Endpoint.paired_resolve world organization leftEarlier rightEarlier
  | _ => cases about

end Stages

/-! ## Two runs -/

namespace Session

theorem Leaves.sharesText
    {key : String}
    {before after : Session}
    (leaves : before.Leaves key after) :
    after.SharesText key before :=
  ⟨leaves.clock, leaves.lifetime, fun moment _ => leaves.lookup moment⟩

/-- What leaves a text alone may follow a stage after which it is shared. -/
theorem sharesText_bind
    {world : World}
    {key : String}
    {leftEarlier rightEarlier : List Call}
    {stage : Request String}
    {next : String → Request α}
    (paired : Request.Paired world world (Accords key leftEarlier rightEarlier) Eq stage stage)
    (rest : ∀ backend, Request.LeadsIn world (Leaves key) α (next backend))
    {left right : Session}
    (accords : left.Accords key leftEarlier rightEarlier right) :
    ((stage >>= next).run world left).2.SharesText key
      ((stage >>= next).run world right).2 := by
  obtain ⟨agree, shares, _⟩ := paired left right accords
  rw [Request.run_bind, Request.run_bind]
  rcases leftRun : stage.run world left with ⟨leftResult, leftAfter⟩
  rcases rightRun : stage.run world right with ⟨rightResult, rightAfter⟩
  rw [leftRun, rightRun] at agree shares
  obtain rfl := agree.eq
  cases leftResult with
  | error fault => exact shares
  | ok backend =>
      -- The two ways part here, since other cached texts may differ.
      exact (rest backend leftAfter).sharesText.trans
        (shares.trans (rest backend rightAfter).sharesText.symm)

end Session

namespace Step

variable {step : Step} {organization : String}

theorem concerns_iff_of_isRequest
    (isRequest : step.isRequest) :
    step.concerns organization ↔ step.organization? = some organization := by
  cases step with
  | advance | purge | change => cases isRequest
  | _ => simp [concerns, organization?]

/-- A request without a first stage does nothing. -/
theorem step_of_no_stage
    (about : step.organization? = some organization)
    (none : step.stage? = none)
    (state : RunState) :
    (state.step step).2 = state := by
  cases step with
  | charts owner chartType parameters now =>
      cases reads : ChartSelection.read chartType with
      | error unknown => rw [RunState.step, Dashboard.charts_of_unread reads]; rfl
      | ok selection =>
          rw [stage?, reads] at none
          cases none
  | summaries | resources | endpoint => cases none
  | clusterName | advance | purge | change => cases about

end Step

namespace RunState

/-- A request gives the same result in two states and makes the same calls. -/
def ServeAlike
    (request : Request α)
    (left right : RunState) : Prop :=
  (request.run left.world left.session).1 = (request.run right.world right.session).1 ∧
    ∃ made, (request.run left.world left.session).2.calls = left.session.calls ++ made ∧
      (request.run right.world right.session).2.calls = right.session.calls ++ made

/-- Two runs stand in the same world and show the same endpoint of an organization. -/
structure ShareEndpoint
    (organization : String)
    (left right : RunState) : Prop where
  world : left.world = right.world
  text : left.session.SharesText (Endpoint.key organization) right.session

/-- Requests about others leave the endpoint of an organization alone. -/
theorem leaves_step
    (state : RunState)
    {step : Step}
    (isRequest : step.isRequest)
    {organization : String}
    (foreign : step.organization? ≠ some organization) :
    state.session.Leaves (Endpoint.key organization) (state.step step).2.session := by
  have leaves := Session.Leaves.composesCharts state.world organization ""
  refine state.leadsIn_step isRequest (fun _ _ => trivial)
    (Session.Leaves.composesSearches state.world _) leaves.clusterName ?_
  intro owner about
  apply Endpoint.leaves_resolve
  intro same
  rw [Endpoint.key_injective same] at foreign
  exact foreign about

namespace ShareEndpoint

variable {organization : String} {left right : RunState} {step : Step}

/-- The first stage of a request depends on the shared endpoint alone. -/
theorem serveAlike
    (share : left.ShareEndpoint organization right)
    (about : step.organization? = some organization)
    {stage : Request String}
    (starts : step.stage? = some stage) :
    ServeAlike stage left right := by
  have paired := Step.paired_stage left.world left.session.calls right.session.calls about starts
  obtain ⟨agree, _, calls⟩ := paired left.session right.session (.of_sharesText share.text)
  have same : stage.run left.world right.session = stage.run right.world right.session := by
    rw [share.world]
  rw [same] at agree calls
  exact ⟨agree.eq, calls⟩

/-- One run may take a step that does not concern the organization. -/
theorem alone
    (share : left.ShareEndpoint organization right)
    (foreign : step.concerns organization = false) :
    (left.step step).2.ShareEndpoint organization right := by
  cases isRequest : step.isRequest with
  | true =>
      have notAbout : step.organization? ≠ some organization := by
        rw [ne_eq, ← Step.concerns_iff_of_isRequest isRequest, foreign]
        exact Bool.false_ne_true
      exact ⟨(left.world_of_isRequest isRequest).trans share.world,
        (left.leaves_step isRequest notAbout).sharesText.trans share.text⟩
  | false =>
      cases step with
      | purge =>
          refine ⟨share.world, share.text.clock, share.text.lifetime, ?_⟩
          intro moment notBefore
          have notBeforePurge : left.session.clock ≤ moment := by
            rw [share.text.clock]
            exact notBefore
          exact (Cache.lookup_purge_of_le _ notBeforePurge _).trans
            (share.text.text moment notBefore)
      | advance | change => cases foreign
      | charts | summaries | resources | endpoint | clusterName => cases isRequest

/-- Both may take a step that does. -/
theorem together
    (share : left.ShareEndpoint organization right)
    (own : step.concerns organization) :
    (left.step step).2.ShareEndpoint organization (right.step step).2 := by
  cases isRequest : step.isRequest with
  | true =>
      have about := (Step.concerns_iff_of_isRequest isRequest).mp own
      cases starts : step.stage? with
      | none =>
          rw [Step.step_of_no_stage about starts, Step.step_of_no_stage about starts]
          exact share
      | some stage =>
          obtain ⟨α, next, outcome, serves, rest⟩ := Step.exists_rest about starts
          have paired :=
            Step.paired_stage left.world left.session.calls right.session.calls about starts
          have text := Session.sharesText_bind paired (rest left.world)
            (.of_sharesText share.text)
          rw [serves, serves]
          refine ⟨share.world, ?_⟩
          have same : (stage >>= next).run left.world right.session =
              (stage >>= next).run right.world right.session := by
            rw [share.world]
          rw [same] at text
          exact text
  | false =>
      cases step with
      | advance duration =>
          refine ⟨share.world, congrArg (· + duration) share.text.clock, share.text.lifetime, ?_⟩
          intro moment notBefore
          exact share.text.text moment (Nat.le_trans (Nat.le_add_right _ duration) notBefore)
      | change world => exact ⟨rfl, share.text⟩
      | purge => cases own
      | charts | summaries | resources | endpoint | clusterName => cases isRequest

/-- So a run shows the same endpoint as its part that concerns the organization. -/
theorem run
    (share : left.ShareEndpoint organization right)
    (steps : List Step) :
    (left.run steps).2.ShareEndpoint organization
      (right.run (steps.filter (Step.concerns organization))).2 := by
  induction steps generalizing left right with
  | nil => exact share
  | cons step rest inductionHypothesis =>
      rw [run_cons]
      cases own : step.concerns organization with
      | true =>
          rw [List.filter_cons_of_pos own, run_cons]
          exact inductionHypothesis (share.together own)
      | false =>
          rw [List.filter_cons_of_neg (by simp [own])]
          exact inductionHypothesis (share.alone own)

end ShareEndpoint

/-- The first stage of every request about an organization gives the same result and makes
the same calls as if the run had been about that organization alone and never purged.  No
resolution for another id touches what is cached for this one, and what is visible under
an id has been found on its behalf. -/
theorem endpoints_isolated
    (start : RunState)
    (steps : List Step)
    (organization : String) :
    (∀ (step : Step) stage, step.organization? = some organization → step.stage? = some stage →
      step.BeginsWith stage ∧
        ServeAlike stage (start.run steps).2
          (start.run (steps.filter (Step.concerns organization))).2) ∧
    (∀ other, other ≠ organization →
      Request.Leads (Session.Leaves (Endpoint.key organization)) String
        (Endpoint.resolve other)) ∧
    (∀ cluster,
      Request.Leads (Session.Leaves (Endpoint.key organization)) String
          (ClusterName.resolve cluster) ∧
        Request.Leads (Session.Leaves (ClusterName.key cluster)) String
          (Endpoint.resolve organization)) ∧
    (∀ cluster other, other ≠ cluster →
      Request.Leads (Session.Leaves (ClusterName.key cluster)) String
        (ClusterName.resolve other)) ∧
    (∀ world lifetime address,
      ((begin world lifetime).run steps).2.session.lookup (Endpoint.key organization) =
          some address →
        ∃ consultation ∈ (begin world lifetime).consultations steps,
          consultation.organization? = some organization ∧
            (∃ cluster, consultation.call = .registry cluster) ∧
              consultation.world.HasEndpoint organization address) ∧
    (∀ world lifetime cluster name,
      ((begin world lifetime).run steps).2.session.lookup (ClusterName.key cluster) =
          some name →
        ∃ consultation ∈ (begin world lifetime).consultations steps,
          consultation.call = .cluster cluster ∧ consultation.world.HasName cluster name) := by
  refine ⟨?_, ?_, ?_, ?_, ?_, ?_⟩
  · intro step stage about starts
    obtain ⟨α, next, outcome, serves, _⟩ := Step.exists_rest about starts
    have share : start.ShareEndpoint organization start := ⟨rfl, .refl _ _⟩
    exact ⟨⟨α, next, outcome, serves⟩, (share.run steps).serveAlike about starts⟩
  · intro other different world
    refine Endpoint.leaves_resolve ?_ world
    intro same
    exact different (Endpoint.key_injective same).symm
  · intro cluster
    refine ⟨fun world => ?_, fun world => ?_⟩
    · exact ClusterName.leaves_resolve fun _ _ => Endpoint.key_ne_clusterNameKey _ _
    · exact Endpoint.leaves_resolve (Endpoint.key_ne_clusterNameKey _ _).symm world
  · intro cluster other different world
    refine ClusterName.leaves_resolve ?_
    intro _ _ same
    exact different (ClusterName.key_injective same).symm
  · intro world lifetime address visible
    obtain ⟨consultation, member, finds, _⟩ :=
      exists_finds_of_visible world lifetime steps visible
    exact ⟨consultation, member, Consultation.finds_endpoint_iff.mp finds⟩
  · intro world lifetime cluster name visible
    obtain ⟨consultation, member, finds, _⟩ :=
      exists_finds_of_visible world lifetime steps visible
    exact ⟨consultation, member, Consultation.finds_clusterName_iff.mp finds⟩

/-- Another id that looks like a cache key, a name and a purge make no difference to the
totals of an organization whose endpoint is cached. -/
theorem sample_endpoints_isolated :
    let start := begin World.sample 5
    let steps : List Step := [.endpoint "acme", .endpoint "metrics-endpoint:acme",
      .clusterName "c1", .advance 4, .purge]
    steps.filter (Step.concerns "acme") = [.endpoint "acme", .advance 4] ∧
      (Step.resources "acme").stage? = some (Endpoint.backend "acme") ∧
      ServeAlike (Endpoint.backend "acme") (start.run steps).2
        (start.run [.endpoint "acme", .advance 4]).2 := by
  intro start steps
  have own : steps.filter (Step.concerns "acme") = [.endpoint "acme", .advance 4] := rfl
  have stage : (Step.resources "acme").stage? = some (Endpoint.backend "acme") := rfl
  refine ⟨own, stage, ?_⟩
  have isolated := (endpoints_isolated start steps "acme").1 (.resources "acme") _ rfl stage
  rw [own] at isolated
  exact isolated.2

end RunState
end FleetDashboard
