import FleetDashboard.Service.Dashboard

/-!
# Runs of the dashboard service

A run is a sequence of steps on one session: requests of clients, look-ups of a
single endpoint or name, the passing of time, purges, and changes of the world
between requests.
-/

namespace FleetDashboard

open Calendar

/-- One step of a run. -/
inductive Step where
  | charts
      (organization chartType : String)
      (parameters : ChartParameters)
      (now : Instant)
  | summaries
      (organization : String)
  | resources
      (organization : String)
  | endpoint
      (organization : String)
  | clusterName
      (cluster : String)
  | advance
      (duration : Nat)
  | purge
  | change
      (world : World)

/-- What a step yields. -/
inductive Outcome where
  | charts
      (result : Except DashboardError (List Chart))
  | summaries
      (result : Except DashboardError (List StackSummary))
  | resources
      (result : Except DashboardError ResourceTotals)
  | endpoint
      (result : Except DashboardError String)
  | clusterName
      (result : Except DashboardError String)
  /-- Count of cached texts, dead ones included. -/
  | size
      (count : Nat)
  /-- Count of cached texts that were dropped. -/
  | purged
      (count : Nat)
  | changed

/-- Where a run stands: the world as it is and the session so far. -/
structure RunState where
  world : World
  session : Session

namespace RunState

/-- The beginning of a run: nothing is cached; `lifetime` is that of cached texts. -/
def begin
    (world : World)
    (lifetime : Nat) : RunState :=
  ⟨world, Session.begin lifetime⟩

/-- Serve a request. -/
def serve
    (state : RunState)
    (request : Request α) : Except DashboardError α × RunState :=
  let outcome := request.run state.world state.session
  (outcome.1, { state with session := outcome.2 })

/-- Serve a request as a step. -/
def answer
    (state : RunState)
    (request : Request α)
    (outcome : Except DashboardError α → Outcome) : Outcome × RunState :=
  let served := state.serve request
  (outcome served.1, served.2)

theorem answer_of_run
    (state : RunState)
    {request : Request α}
    {result : Except DashboardError α}
    {after : Session}
    (runs : request.run state.world state.session = (result, after))
    (outcome : Except DashboardError α → Outcome) :
    state.answer request outcome = (outcome result, ⟨state.world, after⟩) := by
  simp only [answer, serve, runs]

/-- Take one step. -/
def step
    (state : RunState) : Step → Outcome × RunState
  | .charts organization chartType parameters now =>
      state.answer (Dashboard.charts organization chartType parameters now) .charts
  | .summaries organization => state.answer (Dashboard.summaries organization) .summaries
  | .resources organization => state.answer (Dashboard.resources organization) .resources
  | .endpoint organization => state.answer (Endpoint.resolve organization) .endpoint
  | .clusterName cluster => state.answer (ClusterName.resolve cluster) .clusterName
  | .advance duration =>
      let session := state.session.advance duration
      (.size session.cache.size, { state with session := session })
  | .purge =>
      (.purged (state.session.cache.purgeable state.session.clock),
        { state with session := state.session.purge })
  | .change world => (.changed, { state with world := world })

/-- Take steps one after the other. -/
def run : RunState → List Step → List Outcome × RunState
  | state, [] => ([], state)
  | state, step :: rest =>
      let (outcome, state) := state.step step
      let (outcomes, state) := state.run rest
      (outcome :: outcomes, state)

@[simp] theorem run_nil
    (state : RunState) :
    state.run [] = ([], state) := rfl

@[simp] theorem run_cons
    (state : RunState)
    (step : Step)
    (rest : List Step) :
    state.run (step :: rest) =
      ((state.step step).1 :: ((state.step step).2.run rest).1,
        ((state.step step).2.run rest).2) := rfl

theorem run_append
    (state : RunState)
    (front back : List Step) :
    state.run (front ++ back) =
      ((state.run front).1 ++ ((state.run front).2.run back).1,
        ((state.run front).2.run back).2) := by
  induction front generalizing state with
  | nil => simp
  | cons step rest inductionHypothesis => simp [inductionHypothesis]

end RunState
end FleetDashboard
