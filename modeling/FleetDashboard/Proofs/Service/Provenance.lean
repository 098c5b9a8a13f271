import FleetDashboard.Proofs.Service.Soundness
import Mathlib.Data.List.Induction

/-!
# The provenance of cached texts

Over a whole run every cached text goes back to an instant at which the world
vouched for it.  Hence the endpoints and names that a run hands out were true no
longer ago than a cached text lives; the only other text it hands out is the id
of a cluster that has no name on record at that moment.
-/

namespace FleetDashboard

namespace Vantage

/-- A step may reach the backends at recent endpoints of the organization that it
is about. -/
def Permits
    (view : Vantage)
    (step : Step)
    (address : String) : Prop :=
  ∃ organization, step.organization? = some organization ∧
    view.Recently (·.HasEndpoint organization address)

/-- What is handed out by a step is true.  Cards and totals hand out neither
endpoints nor cached names. -/
def Confirms
    (view : Vantage)
    (outcome : Outcome) : Step → Prop
  | .charts _ _ _ _ => ∃ result, outcome = .charts result ∧
      ∀ charts, result = .ok charts → ∀ chart ∈ charts, view.ShowsChart chart
  | .endpoint organization => ∃ result, outcome = .endpoint result ∧
      ∀ address, result = .ok address → view.Recently (·.HasEndpoint organization address)
  | .clusterName cluster => ∃ result, outcome = .clusterName result ∧
      ∀ name, result = .ok name → view.ShowsName cluster name
  | _ => True

end Vantage

namespace RunState

/-- The vantage point of a run that has taken these steps. -/
def vantage
    (start : RunState)
    (steps : List Step) : Vantage where
  past := start.Visits steps
  lifetime := start.session.cache.lifetime
  now := (start.run steps).2.session.clock
  world := (start.run steps).2.world
  present := Visits.now start steps
  notAhead := fun _ _ visits => visits.le_clock

/-- The backends that a step reaches. -/
def Reaches
    (state : RunState)
    (step : Step)
    (address : String) : Prop :=
  .connect address ∈ (state.step step).2.session.calls.drop state.session.calls.length

/-- A step reaches permitted backends only and hands out what is true. -/
structure Honest
    (view : Vantage)
    (state : RunState)
    (step : Step) : Prop where
  permitted : ∀ address, state.Reaches step address → view.Permits step address
  confirmed : view.Confirms (state.step step).1 step

/-! ## One step -/

variable {start : RunState} {steps : List Step}

/-- What a step leaves of a witnessed session is witnessed after that step. -/
theorem witnessed_concat
    {step : Step}
    {session : Session}
    (witnessed : session.Witnessed (start.vantage steps))
    (sameLifetime : ((start.run steps).2.step step).2.session.cache.lifetime =
      session.cache.lifetime)
    (kept : ∀ entry ∈ ((start.run steps).2.step step).2.session.cache.entries,
      entry ∈ session.cache.entries) :
    (start.run (steps ++ [step])).2.session.Witnessed (start.vantage (steps ++ [step])) := by
  have remembers : ∀ moment former, (start.vantage steps).past moment former →
      (start.vantage (steps ++ [step])).past moment former :=
    fun _ _ visits => visits.append [step]
  rw [← run_concat start steps step] at sameLifetime kept
  exact witnessed.later remembers rfl sameLifetime rfl kept

/-- A step that serves a request keeps the session witnessed, reaches permitted
backends only and hands out what the request ensures. -/
theorem step_of_ensures
    (step : Step)
    {request : Request α}
    {outcome : Except DashboardError α → Outcome}
    {holds : α → Prop}
    (witnessed : (start.run steps).2.session.Witnessed (start.vantage steps))
    (ensures : Request.Ensures (start.vantage steps).world
      (Session.Serving (start.vantage steps) (start.run steps).2.session.calls
        ((start.vantage steps).Permits step))
      request holds)
    (served : (start.run steps).2.step step = (start.run steps).2.answer request outcome) :
    (start.run (steps ++ [step])).2.session.Witnessed (start.vantage (steps ++ [step])) ∧
      (∀ address, (start.run steps).2.Reaches step address →
        (start.vantage steps).Permits step address) ∧
      ∃ result, ((start.run steps).2.step step).1 = outcome result ∧
        ∀ value, result = .ok value → holds value := by
  obtain ⟨serving, yields⟩ := ensures _ (.begin witnessed _)
  obtain ⟨made, calls, permitted⟩ := serving.calls
  have after : ((start.run steps).2.step step).2.session =
      (request.run (start.run steps).2.world (start.run steps).2.session).2 := by
    rw [served]
    rfl
  refine ⟨?_, ?_, (request.run (start.run steps).2.world (start.run steps).2.session).1, ?_,
    yields⟩
  · have kept := serving.witnessed
    exact witnessed_concat kept (by rw [after]; rfl) (by rw [after]; exact fun _ held => held)
  · intro address reaches
    rw [Reaches, after] at reaches
    have onlyMade := congrArg (List.drop (start.run steps).2.session.calls.length) calls
    rw [List.drop_left] at onlyMade
    exact permitted address (onlyMade ▸ reaches)
  · rw [served]
    rfl

/-- A step that calls nobody and drops cached texts at most is honest and leaves a
witnessed session. -/
theorem step_of_silent
    {step : Step}
    (witnessed : (start.run steps).2.session.Witnessed (start.vantage steps))
    (silent : ((start.run steps).2.step step).2.session.calls =
      (start.run steps).2.session.calls)
    (sameLifetime : ((start.run steps).2.step step).2.session.cache.lifetime =
      (start.run steps).2.session.cache.lifetime)
    (kept : ∀ entry ∈ ((start.run steps).2.step step).2.session.cache.entries,
      entry ∈ (start.run steps).2.session.cache.entries)
    (confirmed : (start.vantage steps).Confirms ((start.run steps).2.step step).1 step) :
    (start.run (steps ++ [step])).2.session.Witnessed (start.vantage (steps ++ [step])) ∧
      (start.run steps).2.Honest (start.vantage steps) step := by
  refine ⟨witnessed_concat witnessed sameLifetime kept, ?_, confirmed⟩
  intro address reaches
  rw [Reaches, silent, List.drop_length] at reaches
  exact absurd reaches List.not_mem_nil

/-- From a witnessed session every step is honest and leaves a witnessed one. -/
theorem step_of_witnessed
    (witnessed : (start.run steps).2.session.Witnessed (start.vantage steps))
    (step : Step) :
    (start.run (steps ++ [step])).2.session.Witnessed (start.vantage (steps ++ [step])) ∧
      (start.run steps).2.Honest (start.vantage steps) step := by
  cases step with
  | charts organization chartType parameters now =>
      obtain ⟨after, permitted, confirmed⟩ :=
        step_of_ensures (.charts organization chartType parameters now) witnessed
          (Vantage.ensures_charts organization chartType parameters now
            fun _ recent => ⟨organization, rfl, recent⟩)
          rfl
      exact ⟨after, permitted, confirmed⟩
  | summaries organization =>
      obtain ⟨after, permitted, _⟩ :=
        step_of_ensures (.summaries organization) witnessed
          (Vantage.ensures_summaries organization fun _ recent => ⟨organization, rfl, recent⟩)
          rfl
      exact ⟨after, permitted, trivial⟩
  | resources organization =>
      obtain ⟨after, permitted, _⟩ :=
        step_of_ensures (.resources organization) witnessed
          (Vantage.ensures_resources organization fun _ recent => ⟨organization, rfl, recent⟩)
          rfl
      exact ⟨after, permitted, trivial⟩
  | endpoint organization =>
      obtain ⟨after, permitted, confirmed⟩ :=
        step_of_ensures (.endpoint organization) witnessed
          (Vantage.ensures_resolve_endpoint organization) rfl
      exact ⟨after, permitted, confirmed⟩
  | clusterName cluster =>
      obtain ⟨after, permitted, confirmed⟩ :=
        step_of_ensures (.clusterName cluster) witnessed
          (Vantage.ensures_resolve_clusterName cluster) rfl
      exact ⟨after, permitted, confirmed⟩
  | advance duration => exact step_of_silent witnessed rfl rfl (fun _ held => held) trivial
  | purge =>
      refine step_of_silent witnessed rfl rfl ?_ trivial
      intro entry held
      exact ((Cache.mem_entries_purge _ _ _).mp held).1
  | change world => exact step_of_silent witnessed rfl rfl (fun _ held => held) trivial

/-! ## Whole runs -/

/-- A run that begins with nothing cached stays witnessed. -/
theorem witnessed_run
    (world : World)
    (lifetime : Nat)
    (steps : List Step) :
    ((begin world lifetime).run steps).2.session.Witnessed
      ((begin world lifetime).vantage steps) := by
  induction steps using List.reverseRecOn with
  | nil => exact ⟨rfl, rfl, fun _ member => absurd member List.not_mem_nil⟩
  | append_singleton steps step inductionHypothesis =>
      exact (step_of_witnessed inductionHypothesis step).1

/-- What a world vouches for under a key is one of two forms, never both. -/
theorem xor_of_vouches
    {world : World}
    {key value : String}
    (vouches : world.Vouches key value) :
    Xor
      (∃ organization, key = Endpoint.key organization ∧ world.HasEndpoint organization value)
      (∃ cluster, key = ClusterName.key cluster ∧ world.HasName cluster value) := by
  cases vouches with
  | @endpoint organization _ found =>
      refine .inl ⟨⟨organization, rfl, found⟩, ?_⟩
      rintro ⟨cluster, same, _⟩
      exact Endpoint.key_ne_clusterNameKey organization cluster same
  | @clusterName cluster _ found =>
      refine .inr ⟨⟨cluster, rfl, found⟩, ?_⟩
      rintro ⟨organization, same, _⟩
      exact Endpoint.key_ne_clusterNameKey organization cluster same.symm

/-- Every cached text of a run is the endpoint of an organization or the name of a
cluster, true at a visited instant from which its expiry counts; and after any
steps every further step reaches and hands out only what is true or was true less
than a lifetime ago. -/
theorem texts_were_true_within_lifetime
    (world : World)
    (lifetime : Nat)
    (steps : List Step) :
    (∀ entry ∈ ((begin world lifetime).run steps).2.session.cache.entries,
      ∃ moment former, (begin world lifetime).Visits steps moment former ∧
        entry.expiry = moment + min lifetime Cache.longestLifetime ∧
          Xor
            (∃ organization, entry.key = Endpoint.key organization ∧
              former.HasEndpoint organization entry.value)
            (∃ cluster, entry.key = ClusterName.key cluster ∧
              former.HasName cluster entry.value)) ∧
      ∀ step,
        ((begin world lifetime).run steps).2.Honest ((begin world lifetime).vantage steps)
          step := by
  have witnessed := witnessed_run world lifetime steps
  refine ⟨?_, fun step => (step_of_witnessed witnessed step).2⟩
  intro entry member
  obtain ⟨moment, former, visited, expires, vouches⟩ := witnessed.entries entry member
  exact ⟨moment, former, visited, expires, xor_of_vouches vouches⟩

/-- A name that a request for charts caches was true when it was asked for. -/
theorem charted_name_was_true_within_lifetime :
    ⟨"cluster-name:c1", "alpha", 10⟩ ∈
        ((begin World.sample 10).run
          [.charts "acme" "cpu" ⟨none, none, none, none⟩ ⟨0, 0⟩,
            .advance 7]).2.session.cache.entries ∧
      ∃ moment former,
        (begin World.sample 10).Visits
            [.charts "acme" "cpu" ⟨none, none, none, none⟩ ⟨0, 0⟩, .advance 7] moment former ∧
          10 = moment + min 10 Cache.longestLifetime ∧
            Xor
              (∃ organization, "cluster-name:c1" = Endpoint.key organization ∧
                former.HasEndpoint organization "alpha")
              (∃ cluster, "cluster-name:c1" = ClusterName.key cluster ∧
                former.HasName cluster "alpha") := by
  refine ⟨by decide, ?_⟩
  exact (texts_were_true_within_lifetime World.sample 10
    [.charts "acme" "cpu" ⟨none, none, none, none⟩ ⟨0, 0⟩, .advance 7]).1
      ⟨"cluster-name:c1", "alpha", 10⟩ (by decide)

end RunState
end FleetDashboard
