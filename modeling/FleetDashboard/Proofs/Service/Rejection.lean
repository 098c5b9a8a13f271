import FleetDashboard.Metrics.Client
import FleetDashboard.Proofs.Service.Provenance
import FleetDashboard.Proofs.Service.Selection

/-!
# What an unusable primary cluster leaves behind

The same code is reported when no endpoint can be made out and when there is no
backend at the endpoint.  An endpoint is cached as soon as it is made out.  So the
first kind of failure leaves nothing cached, and the second kind leaves the very
address that was rejected, which later requests take from the cache.
-/

namespace FleetDashboard

/-- The error that a step reports. -/
def Outcome.failure? : Outcome → Option DashboardError
  | .charts (.error fault) => some fault
  | .summaries (.error fault) => some fault
  | .resources (.error fault) => some fault
  | .endpoint (.error fault) => some fault
  | .clusterName (.error fault) => some fault
  | _ => none

/-- Two causes are reported as an unusable primary cluster. -/
theorem DashboardError.code_eq_invalidPrimary_iff
    (fault : DashboardError) :
    fault.code = "D_INVALID_PRIMARY_STACK" ↔
      (∃ reason, fault = .configuration reason) ∨ ∃ reason, fault = .resolution reason := by
  cases fault <;> simp [code]

namespace Session

/-! ## What is cached of the backend that is reached -/

/-- In between, one backend has been reached or none; and the cached endpoint of the
organization is the address of that backend, unless nothing stays cached. -/
def KeepsReached
    (organization : String)
    (before after : Session) : Prop :=
  ∃ made reached, after.calls = before.calls ++ made ∧
    (∀ address, .connect address ∈ made ↔ reached = some address) ∧
    (after.lookup (Endpoint.key organization) = reached ∨
      after.lookup (Endpoint.key organization) = none ∧ after.cache.lifetime = 0)

namespace KeepsReached

variable {organization : String} {before after : Session}

/-- What spares the endpoint may follow. -/
theorem spares
    {middle : Session}
    (keeps : before.KeepsReached organization middle)
    (spared : middle.Spares organization after) :
    before.KeepsReached organization after := by
  obtain ⟨made, reached, calls, reaches, cached⟩ := keeps
  obtain ⟨more, moreCalls, notConnect⟩ := spared.reachesNothing
  refine ⟨made ++ more, reached, ?_, ?_, ?_⟩
  · rw [moreCalls, calls, List.append_assoc]
  · intro address
    rw [List.mem_append, reaches address]
    exact or_iff_left fun member => notConnect _ member address rfl
  · rw [spared.lookup, spared.lifetime]
    exact cached

/-- What reaches no backend may go before. -/
theorem after_log
    {call : Call}
    (notConnect : ∀ address, call ≠ .connect address)
    (keeps : (before.log call).KeepsReached organization after) :
    before.KeepsReached organization after := by
  obtain ⟨made, reached, calls, reaches, cached⟩ := keeps
  refine ⟨call :: made, reached, ?_, ?_, cached⟩
  · rw [calls, calls_log, List.append_assoc, List.singleton_append]
  · intro address
    rw [List.mem_cons, reaches address]
    exact or_iff_right fun same => notConnect address same.symm

end KeepsReached
end Session

namespace Endpoint

theorem not_connect_of_isSearch
    (call : Call)
    (searches : call.isSearch)
    (address : String) :
    call ≠ .connect address := by
  rintro rfl
  cases searches

/-- A failed resolution leaves nothing cached and has reached no backend. -/
theorem keepsReached_of_resolve_error
    {world : World}
    {organization : String}
    {session after : Session}
    {fault : DashboardError}
    (fails : (resolve organization).run world session = (.error fault, after)) :
    session.KeepsReached organization after := by
  cases cached : session.lookup (key organization) with
  | some address =>
      rw [run_resolve_of_some cached] at fails
      cases fails
  | none =>
      rw [run_resolve_of_none cached, Request.run_bind] at fails
      have spared := (Session.Spares.composesSearches organization "").find
        not_connect_of_isSearch organization world session
      rcases finds : (find organization).run world session with ⟨reason | address, searched⟩
      · rw [finds] at fails spared
        cases fails
        obtain ⟨made, calls, notConnect⟩ := spared.reachesNothing
        refine ⟨made, none, calls, ?_, .inl (spared.lookup.trans cached)⟩
        intro address
        exact iff_of_false (fun member => notConnect _ member address rfl) nofun
      · rw [finds] at fails
        cases fails

/-- Once an endpoint is resolved, the backend at its address is reached, and that
address is cached. -/
theorem keepsReached_backend
    (organization : String) :
    Request.Leads (Session.KeepsReached organization) String (backend organization) := by
  intro world session
  have extended := Session.Extends.resolve not_connect_of_isSearch organization world session
  rw [backend, Request.run_bind]
  rcases resolves : (resolve organization).run world session with ⟨fault | address, after⟩
  · exact keepsReached_of_resolve_error resolves
  · rw [resolves] at extended
    obtain ⟨made, calls, notConnect⟩ := extended
    have known := known_of_resolve resolves
    have kept : session.KeepsReached organization (after.log (.connect address)) := by
      refine ⟨made ++ [.connect address], some address, ?_, ?_, ?_⟩
      · rw [Session.calls_log, calls, List.append_assoc]
      · intro other
        have notMade : .connect other ∉ made := fun member => notConnect _ member other rfl
        simp [notMade, eq_comm]
      · rcases known with cached | ⟨absent, dead, _⟩
        · exact .inl cached
        · exact .inr ⟨absent, dead⟩
    dsimp only
    rw [Request.run_bind, Request.run_demand]
    cases world.connect address with
    | error fault => exact kept
    | ok _ => exact kept

end Endpoint

namespace Dashboard

variable {organization : String}

/-- What is asked of a reached backend leaves that endpoint as it is. -/
theorem keepsReached_of_backend
    {next : String → Request α}
    (spares : ∀ backend, Request.Leads (Session.Spares organization) α (next backend)) :
    Request.Leads (Session.KeepsReached organization) α
      (Endpoint.backend organization >>= next) := by
  intro world session
  have kept := Endpoint.keepsReached_backend organization world session
  rw [Request.run_bind]
  rcases reaches : (Endpoint.backend organization).run world session with
    ⟨fault | backend, after⟩
  · rw [reaches] at kept
    exact kept
  · rw [reaches] at kept
    exact kept.spares (spares backend world after)

theorem keepsReached_summaries :
    Request.Leads (Session.KeepsReached organization) _ (summaries organization) := by
  rw [summaries_eq]
  apply keepsReached_of_backend
  intro backend
  exact (Session.Spares.composesSearches organization backend).summariesAt organization
    (by simp) (by simp)

theorem keepsReached_resources :
    Request.Leads (Session.KeepsReached organization) _ (resources organization) := by
  rw [resources_eq]
  apply keepsReached_of_backend
  intro backend
  exact (Session.Spares.composesSearches organization backend).resourcesAt organization
    (by simp) (by simp)

theorem keepsReached_kinds
    (kinds : List ChartKind)
    (parameters : ChartParameters)
    (now : Calendar.Instant) :
    Request.Leads (Session.KeepsReached organization) _
      (Endpoint.backend organization >>= fun backend =>
        kinds.mapM (chart organization backend parameters now)) := by
  apply keepsReached_of_backend
  intro backend
  refine (Session.Spares.composesSearches organization backend).mapM ?_
  intro kind _
  exact Session.Spares.chart organization organization backend parameters now kind

/-- A request for charts reads the chart type and looks for the tenant first.  What
is wrong with them is not reported as an unusable primary cluster. -/
theorem keepsReached_charts
    {chartType : String}
    {parameters : ChartParameters}
    {now : Calendar.Instant}
    {world : World}
    {session after : Session}
    {fault : DashboardError}
    (fails : (charts organization chartType parameters now).run world session =
      (.error fault, after))
    (unusable : fault.code = "D_INVALID_PRIMARY_STACK") :
    session.KeepsReached organization after := by
  rw [DashboardError.code_eq_invalidPrimary_iff] at unusable
  cases reads : ChartSelection.read chartType with
  | error unknown =>
      rw [charts_of_unread reads] at fails
      cases fails
      obtain ⟨reason, rfl⟩ := ChartSelection.eq_noData_of_read_error reads
      simp at unusable
  | ok selection =>
      rw [charts_of_read reads, opening, bind_assoc] at fails
      rcases answered : world.organization organization with reason | _ | record
      · rw [Request.run_bind, Endpoint.run_tenant, answered] at fails
        cases fails
        simp at unusable
      · rw [Request.run_bind, Endpoint.run_tenant, answered] at fails
        cases fails
        simp at unusable
      · rw [Request.run_bind_of_ok (Endpoint.run_tenant_of_recorded answered session)] at fails
        have kept := (keepsReached_kinds selection.kinds parameters now).of_run fails
        exact kept.after_log (by simp)

end Dashboard

namespace Session

/-- The next resolution of an organization's endpoint searches for it, whatever the
world is like by then. -/
def SearchesAnew
    (organization : String)
    (session : Session) : Prop :=
  ∀ world, ∃ made, ((Endpoint.resolve organization).run world session).2.calls =
    session.calls ++ .organization organization :: made

theorem searchesAnew_iff
    (organization : String)
    (session : Session) :
    session.SearchesAnew organization ↔ session.lookup (Endpoint.key organization) = none := by
  constructor
  · intro anew
    cases cached : session.lookup (Endpoint.key organization) with
    | none => rfl
    | some address =>
        obtain ⟨made, calls⟩ := anew World.sample
        rw [Endpoint.run_resolve_of_some cached] at calls
        simp at calls
  · intro absent world
    obtain ⟨result, after, runs, way⟩ := Endpoint.resolves world organization session
    rw [runs]
    cases way with
    | cached visible =>
        rw [absent] at visible
        cases visible
    | found _ _ _ => exact ⟨_, rfl⟩
    | missed _ _ _ => exact ⟨_, rfl⟩

/-- Where nothing stays cached nothing is visible. -/
theorem Witnessed.lifetime_pos
    {view : Vantage}
    {session : Session}
    (witnessed : session.Witnessed view)
    {key value : String}
    (visible : session.lookup key = some value) :
    0 < view.lifetime := by
  obtain ⟨entry, member, _, _, live⟩ := (Cache.lookup_eq_some_iff _ _ _ _).mp visible
  obtain ⟨moment, former, visited, expires, _⟩ := witnessed.entries entry member
  have notAhead := view.notAhead moment former visited
  rw [witnessed.sameClock, expires] at live
  omega

end Session

/-- The sample world, where the port of the service names this scheme and backends are
reached over the web. -/
def World.sampleOverWeb
    (scheme : String) : World :=
  { World.sample with
    service := fun _ _ name =>
      .ok (if name = Endpoint.plainService then
        some ⟨Kubernetes.ServiceEndpoint.loadBalancer, some "thanos", some 9090, some scheme⟩
      else none)
    connect := fun address => (Metrics.MetricsBackend.connect address).map fun _ => () }

namespace RunState

/-! ## One step -/

/-- A step that reports an unusable primary cluster has reached the backend whose
address is cached, or none. -/
theorem keepsReached_step
    (state : RunState)
    {step : Step}
    {organization : String}
    (about : step.organization? = some organization)
    {fault : DashboardError}
    (fails : (state.step step).1.failure? = some fault)
    (unusable : fault.code = "D_INVALID_PRIMARY_STACK") :
    state.session.KeepsReached organization (state.step step).2.session := by
  cases step with
  | charts owner chartType parameters now =>
      cases about
      rcases runs : (Dashboard.charts organization chartType parameters now).run state.world
        state.session with ⟨result, after⟩
      rw [step, answer_of_run state runs] at fails ⊢
      cases result with
      | ok _ => cases fails
      | error reported =>
          cases fails
          exact Dashboard.keepsReached_charts runs unusable
  | summaries owner =>
      cases about
      exact Dashboard.keepsReached_summaries state.world state.session
  | resources owner =>
      cases about
      exact Dashboard.keepsReached_resources state.world state.session
  | endpoint owner =>
      cases about
      rcases runs : (Endpoint.resolve organization).run state.world state.session with
        ⟨result, after⟩
      rw [step, answer_of_run state runs] at fails ⊢
      cases result with
      | ok _ => cases fails
      | error reported => exact Endpoint.keepsReached_of_resolve_error runs
  | clusterName cluster => cases about
  | advance duration => cases about
  | purge => cases about
  | change world => cases about

/-! ## What is left behind -/

/-- After a request of a run has reported an unusable primary cluster, an endpoint
of the organization is cached exactly when the backend there has been reached and
texts stay cached at all.  Unless that is so, the next resolution searches anew. -/
theorem cached_iff_reached_of_unusable
    (world : World)
    (lifetime : Nat)
    (steps : List Step)
    {step : Step}
    {organization : String}
    {fault : DashboardError}
    (about : step.organization? = some organization)
    (fails : (((begin world lifetime).run steps).2.step step).1.failure? = some fault)
    (unusable : fault.code = "D_INVALID_PRIMARY_STACK") :
    let state := ((begin world lifetime).run steps).2
    let after := (state.step step).2.session
    (∀ address, after.lookup (Endpoint.key organization) = some address ↔
        0 < lifetime ∧ state.Reaches step address) ∧
      (after.SearchesAnew organization ↔
        lifetime = 0 ∨ ∀ address, ¬state.Reaches step address) := by
  intro state after
  have witnessed := witnessed_run world lifetime (steps ++ [step])
  rw [run_concat] at witnessed
  have cachedIff : ∀ address, after.lookup (Endpoint.key organization) = some address ↔
      0 < lifetime ∧ state.Reaches step address := by
    obtain ⟨made, reached, calls, reaches, cached⟩ :=
      state.keepsReached_step about fails unusable
    intro address
    rw [Reaches, calls, List.drop_left, reaches address]
    constructor
    · intro visible
      refine ⟨witnessed.lifetime_pos visible, ?_⟩
      rcases cached with same | ⟨absent, _⟩
      · exact same.symm.trans visible
      · rw [absent] at visible
        cases visible
    · rintro ⟨positive, rfl⟩
      rcases cached with same | ⟨_, dead⟩
      · exact same
      · have none : lifetime = 0 := witnessed.sameLifetime.symm.trans dead
        exact absurd none (Nat.ne_of_gt positive)
  refine ⟨cachedIff, ?_⟩
  rw [Session.searchesAnew_iff, Option.eq_none_iff_forall_ne_some]
  constructor
  · intro hidden
    rcases Nat.eq_zero_or_pos lifetime with none | positive
    · exact .inl none
    · refine .inr ?_
      intro address reaches
      exact hidden address ((cachedIff address).mpr ⟨positive, reaches⟩)
  · rintro (none | unreached) address visible
    · exact absurd none (Nat.ne_of_gt ((cachedIff address).mp visible).1)
    · exact unreached address ((cachedIff address).mp visible).2

/-- Where there is no service, no backend is reached, and the next resolution
searches anew. -/
theorem sample_searchesAnew_of_unusable :
    let unserved : World := { World.sample with service := fun _ _ _ => .ok none }
    let state := ((begin unserved 10).run [.advance 3]).2
    (state.step (.resources "acme")).1.failure? = some (Endpoint.noService "c1" "lma") ∧
      (Endpoint.noService "c1" "lma").code = "D_INVALID_PRIMARY_STACK" ∧
      (state.step (.resources "acme")).2.session.SearchesAnew "acme" := by
  intro unserved state
  have fails : (state.step (.resources "acme")).1.failure? =
      some (Endpoint.noService "c1" "lma") := by decide
  refine ⟨fails, rfl, ?_⟩
  have left := cached_iff_reached_of_unusable unserved 10 [.advance 3] rfl fails rfl
  refine left.2.mpr (.inr ?_)
  intro address reaches
  have calls : (state.step (.resources "acme")).2.session.calls =
      [.organization "acme", .registry "c1", .service "c1" "lma" Endpoint.preferredService,
        .service "c1" "lma" Endpoint.plainService] := by decide
  rw [Reaches, calls] at reaches
  have member := List.mem_of_mem_drop reaches
  simp at member

/-- An address that is no web address is cached before it is rejected.  Even when the
service is mended the next request takes it from the cache and fails once more, while
a request that finds nothing cached succeeds. -/
theorem rejected_address_outlives_repair :
    let fiveMinutes := 300000000000
    let broken := World.sampleOverWeb "1http"
    let mended := World.sampleOverWeb "http"
    let rejected := (begin broken fiveMinutes).step (.summaries "acme")
    let fault := DashboardError.resolution
      "Invalid metrics endpoint '1http://thanos:9090': relative URL without a base"
    fault.code = "D_INVALID_PRIMARY_STACK" ∧ rejected.1.failure? = some fault ∧
      rejected.2.session.lookup (Endpoint.key "acme") = some "1http://thanos:9090" ∧
      ((RunState.mk mended rejected.2.session).step (.summaries "acme")).1.failure? = some fault ∧
      ((begin mended fiveMinutes).step (.summaries "acme")).1.failure? = none := by
  decide +kernel

end RunState
end FleetDashboard
