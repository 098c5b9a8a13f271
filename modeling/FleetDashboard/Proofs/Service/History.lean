import FleetDashboard.Proofs.Service.Composition
import FleetDashboard.Service.Run

/-!
# The history of a run

Requests take no time and leave the lifetime of cached texts alone; only waiting
moves the clock.  So the instants that a run visits lie in order, each with the
world as it was then.
-/

namespace FleetDashboard

namespace Step

/-- The time that a step takes. -/
def duration : Step → Nat
  | .advance duration => duration
  | _ => 0

/-- The step is a request. -/
def isRequest : Step → Bool
  | .charts _ _ _ _ | .summaries _ | .resources _ | .endpoint _ | .clusterName _ => true
  | .advance _ | .purge | .change _ => false

/-- The organization that a request is about. -/
def organization? : Step → Option String
  | .charts organization _ _ _ => some organization
  | .summaries organization => some organization
  | .resources organization => some organization
  | .endpoint organization => some organization
  | _ => none

/-- Requests take no time. -/
theorem duration_of_isRequest
    {step : Step}
    (isRequest : step.isRequest) :
    step.duration = 0 := by
  cases step with
  | advance _ => cases isRequest
  | _ => rfl

end Step

/-! ## Time and lifetime -/

/-- Neither the clock nor the lifetime of cached texts differs. -/
def Session.SameTime
    (before after : Session) : Prop :=
  after.clock = before.clock ∧ after.cache.lifetime = before.cache.lifetime

/-- No request of a dashboard moves the clock or the lifetime of cached texts. -/
theorem Request.composesDashboard_timeless
    (world : World) :
    ComposesDashboard (fun _ => True) (Request.LeadsIn world Session.SameTime) := by
  refine .of_searches ?_ (fun _ _ => trivial) (fun _ _ => ⟨rfl, rfl⟩) (fun _ _ _ => ⟨rfl, rfl⟩)
    fun _ _ => ⟨rfl, rfl⟩
  intro backend
  refine Request.composesSearches_leadsIn world (fun _ => ⟨rfl, rfl⟩) ?_ backend
    fun _ _ _ => ⟨rfl, rfl⟩
  rintro first second third ⟨sameClock, sameLifetime⟩ ⟨nextClock, nextLifetime⟩
  exact ⟨nextClock.trans sameClock, nextLifetime.trans sameLifetime⟩

theorem Request.LeadsIn.answer
    {request : Request α}
    {related : Session → Session → Prop}
    (state : RunState)
    (leads : Request.LeadsIn state.world related α request)
    (outcome : Except DashboardError α → Outcome) :
    related state.session (state.answer request outcome).2.session :=
  leads state.session

namespace RunState

/-- A request as a step relates the session before it to the one after it as its parts
do.  Only the endpoint of the organization that it is about is resolved. -/
theorem leadsIn_step
    (state : RunState)
    {step : Step}
    (isRequest : step.isRequest)
    {asks : Call → Prop}
    {related : Session → Session → Prop}
    (allowed : ∀ call : Call, call.isDirect → asks call)
    (searches : ∀ backend, ComposesSearches backend asks (Request.LeadsIn state.world related))
    (clusterName : ∀ cluster,
      Request.LeadsIn state.world related String (ClusterName.resolve cluster))
    (endpoint : ∀ organization, step.organization? = some organization →
      Request.LeadsIn state.world related String (Endpoint.resolve organization)) :
    related state.session (state.step step).2.session := by
  have composes : ∀ organization, step.organization? = some organization →
      ComposesFor organization asks (Request.LeadsIn state.world related) :=
    fun organization about => ⟨searches, clusterName, endpoint organization about⟩
  cases step with
  | charts organization chartType parameters now =>
      have leads := (composes organization rfl).charts (fun call direct _ => allowed call direct)
        chartType parameters now
      exact leads.answer state .charts
  | summaries organization =>
      exact ((composes organization rfl).summaries allowed).answer state .summaries
  | resources organization =>
      exact ((composes organization rfl).resources allowed).answer state .resources
  | endpoint organization => exact (endpoint organization rfl).answer state .endpoint
  | clusterName cluster => exact (clusterName cluster).answer state .clusterName
  | advance | purge | change => cases isRequest

theorem clock_step
    (state : RunState)
    (step : Step) :
    (state.step step).2.session.clock = state.session.clock + step.duration := by
  cases isRequest : step.isRequest with
  | true =>
      have timeless := Request.composesDashboard_timeless state.world
      have same := (state.leadsIn_step isRequest (fun _ _ => trivial) timeless.searches
        timeless.clusterName fun organization _ => timeless.endpoint organization).1
      rw [same, Step.duration_of_isRequest isRequest, Nat.add_zero]
  | false =>
      cases step with
      | advance duration => rfl
      | purge => rfl
      | change world => rfl
      | charts | summaries | resources | endpoint | clusterName => cases isRequest

theorem world_answer
    (state : RunState)
    (request : Request α)
    (outcome : Except DashboardError α → Outcome) :
    (state.answer request outcome).2.world = state.world := rfl

/-- Requests leave the world as it is. -/
theorem world_of_isRequest
    (state : RunState)
    {step : Step}
    (isRequest : step.isRequest) :
    (state.step step).2.world = state.world := by
  cases step with
  | charts | summaries | resources | endpoint | clusterName => exact world_answer state _ _
  | advance | purge | change => cases isRequest

theorem run_concat
    (state : RunState)
    (steps : List Step)
    (step : Step) :
    (state.run (steps ++ [step])).2 = ((state.run steps).2.step step).2 := by
  rw [run_append, run_cons, run_nil]

theorem clock_le_run
    (state : RunState)
    (steps : List Step) :
    state.session.clock ≤ (state.run steps).2.session.clock := by
  induction steps generalizing state with
  | nil => exact Nat.le_refl _
  | cons step rest inductionHypothesis =>
      have rested := inductionHypothesis (state.step step).2
      rw [clock_step] at rested
      exact Nat.le_trans (Nat.le_add_right _ _) rested

/-! ## Visited instants -/

/-- On its way through the steps a run was at `moment`, in `world`. -/
def Visits
    (start : RunState)
    (steps : List Step)
    (moment : Nat)
    (world : World) : Prop :=
  ∃ front back, steps = front ++ back ∧
    (start.run front).2.session.clock = moment ∧ (start.run front).2.world = world

namespace Visits

/-- A run visits the instant at which it stands. -/
theorem now
    (start : RunState)
    (steps : List Step) :
    start.Visits steps (start.run steps).2.session.clock (start.run steps).2.world :=
  ⟨steps, [], (List.append_nil steps).symm, rfl, rfl⟩

/-- What a run has visited it has visited later on, too. -/
theorem append
    {start : RunState}
    {steps : List Step}
    {moment : Nat}
    {world : World}
    (visits : start.Visits steps moment world)
    (more : List Step) :
    start.Visits (steps ++ more) moment world := by
  obtain ⟨front, back, rfl, sameMoment, sameWorld⟩ := visits
  exact ⟨front, back ++ more, List.append_assoc _ _ _, sameMoment, sameWorld⟩

/-- A run has visited nothing that lies ahead. -/
theorem le_clock
    {start : RunState}
    {steps : List Step}
    {moment : Nat}
    {world : World}
    (visits : start.Visits steps moment world) :
    moment ≤ (start.run steps).2.session.clock := by
  obtain ⟨front, back, rfl, rfl, _⟩ := visits
  rw [run_append]
  exact clock_le_run _ back

end Visits
end RunState
end FleetDashboard
