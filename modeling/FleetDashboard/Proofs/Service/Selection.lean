import FleetDashboard.Proofs.Service.Resemblance
import FleetDashboard.Proofs.Service.Resolution

/-!
# All charts at once or one kind after the other

A request for all charts finds the tenant and the backend once; requests for
single kinds do so every time.  Once a session is bound to a backend, doing so
again finds the same backend and changes nothing that can be seen in the cache.
-/

namespace FleetDashboard

/-! ## Opening a request for charts -/

/-- A chart type that cannot be read is unknown. -/
theorem ChartSelection.eq_noData_of_read_error
    {chartType : String}
    {fault : DashboardError}
    (unread : read chartType = .error fault) :
    ∃ reason, fault = .noData reason := by
  simp only [read] at unread
  split at unread
  · cases unread
  · split at unread <;> cases unread
    exact ⟨_, rfl⟩

namespace Dashboard

/-- Find the backend with which a request for charts of an organization works. -/
def opening
    (organization : String) : Request String := do
  let _ ← Endpoint.tenant organization
  Endpoint.backend organization

theorem charts_of_read
    {chartType : String}
    {selection : ChartSelection}
    (reads : ChartSelection.read chartType = .ok selection)
    (organization : String)
    (parameters : ChartParameters)
    (now : Calendar.Instant) :
    charts organization chartType parameters now =
      opening organization >>= fun backend =>
        selection.kinds.mapM (chart organization backend parameters now) := by
  rw [charts, reads, opening, bind_assoc]
  rfl

/-- A chart type that is unknown is reported at once. -/
theorem charts_of_unread
    {chartType : String}
    {fault : DashboardError}
    (unread : ChartSelection.read chartType = .error fault)
    (organization : String)
    (parameters : ChartParameters)
    (now : Calendar.Instant) :
    charts organization chartType parameters now = Request.ofExcept (.error fault) := by
  rw [charts, unread]
  rfl

end Dashboard

/-! ## What charts leave alone -/

/-- A search asks and looks, and touches neither the cache nor the clock. -/
theorem Endpoint.find_leaves_cache
    (organization : String)
    (world : World)
    (session : Session) :
    ((find organization).run world session).2.cache = session.cache ∧
      ((find organization).run world session).2.clock = session.clock := by
  have asks := (Session.OnlyAsks.composesSearches (fun _ => True) "").find (fun _ _ => trivial)
    organization
  obtain ⟨made, same, _⟩ := asks world session
  rw [same]
  exact ⟨rfl, rfl⟩

namespace Session

/-- The endpoint of an organization stays cached as it was, and no backend is
reached. -/
structure Spares
    (organization : String)
    (before after : Session) : Prop where
  lookup : after.lookup (Endpoint.key organization) = before.lookup (Endpoint.key organization)
  lifetime : after.cache.lifetime = before.cache.lifetime
  reachesNothing : before.Extends (fun call => ∀ address, call ≠ .connect address) after

namespace Spares

variable {organization : String}

theorem refl
    (session : Session) :
    session.Spares organization session :=
  ⟨rfl, rfl, .of_calls_eq rfl⟩

theorem trans
    {first second third : Session}
    (spares : first.Spares organization second)
    (sparesToo : second.Spares organization third) :
    first.Spares organization third where
  lookup := sparesToo.lookup.trans spares.lookup
  lifetime := sparesToo.lifetime.trans spares.lifetime
  reachesNothing := spares.reachesNothing.trans sparesToo.reachesNothing

theorem log
    (session : Session)
    {call : Call}
    (notConnect : ∀ address, call ≠ .connect address) :
    session.Spares organization (session.log call) :=
  ⟨rfl, rfl, .log session notConnect⟩

/-- Names are cached under keys of their own. -/
theorem write_name
    (session : Session)
    (cluster name : String) :
    session.Spares organization (session.write (ClusterName.key cluster) name) := by
  refine ⟨?_, rfl, .of_calls_eq rfl⟩
  exact Cache.lookup_writeFor_of_ne _ _ _
    (Endpoint.key_ne_clusterNameKey organization cluster) _ _

/-- Every question spares an endpoint but the one whether a backend can be reached. -/
theorem composesSearches
    (organization backend : String) :
    ComposesSearches backend (fun call => ∀ address, call ≠ .connect address)
      (Request.Leads (Spares organization)) :=
  Request.composesSearches_leads refl trans backend fun session _ notConnect =>
    log session notConnect

theorem chart
    (owner organization backend : String)
    (parameters : ChartParameters)
    (now : Calendar.Instant)
    (kind : ChartKind) :
    Request.Leads (Spares owner) Chart
      (Dashboard.chart organization backend parameters now kind) := by
  have composes := Request.composesCharts_leads (composesSearches owner backend)
    (fun session cluster => log session (by simp)) write_name
  exact composes.chart (by simp) (by simp) fun _ => (composesSearches owner backend).ofExcept _

end Spares

end Session

/-! ## Bound sessions -/

namespace Session

/-- A request for charts made in this session works with this backend: its address
is cached, or else nothing stays cached and a search finds it. -/
structure Bound
    (world : World)
    (organization address : String)
    (session : Session) : Prop where
  recorded : ∃ record, world.organization organization = .ok (some record)
  reachable : world.connect address = .ok ()
  known : session.lookup (Endpoint.key organization) = some address ∨
    session.lookup (Endpoint.key organization) = none ∧ session.cache.lifetime = 0 ∧
      world.HasEndpoint organization address

namespace Bound

variable {world : World} {organization address : String} {session : Session}

/-- Resolving the endpoint again finds the same one and is not seen. -/
theorem run_resolve
    (bound : session.Bound world organization address) :
    ∃ after, (Endpoint.resolve organization).run world session = (.ok address, after) ∧
      after.LooksLike session := by
  rcases bound.known with cached | ⟨absent, dead, has⟩
  · rw [Endpoint.run_resolve_of_some cached]
    exact ⟨session, rfl, .refl session⟩
  · obtain ⟨sameCache, sameClock⟩ := Endpoint.find_leaves_cache organization world session
    have finds := Endpoint.run_find_of_hasEndpoint has session
    rw [Endpoint.run_resolve_of_none absent, Request.run_bind_of_ok (Prod.ext finds rfl)]
    refine ⟨_, rfl, ?_⟩
    have alike : ((Endpoint.find organization).run world session).2.LooksLike session :=
      ⟨sameClock, by rw [sameCache], fun _ _ _ => by rw [sameCache]⟩
    refine .trans (.write_of_dead ?_ ?_ address) alike
    · rw [sameCache, dead]
    · rw [alike.lookup, absent]

/-- Opening a bound session again finds the same backend and is not seen. -/
theorem run_opening
    (bound : session.Bound world organization address) :
    ∃ after, (Dashboard.opening organization).run world session = (.ok address, after) ∧
      after.LooksLike session := by
  obtain ⟨record, recorded⟩ := bound.recorded
  have boundAfter : (session.log (.organization organization)).Bound world organization address :=
    ⟨⟨record, recorded⟩, bound.reachable, bound.known⟩
  obtain ⟨after, resolves, alike⟩ := boundAfter.run_resolve
  rw [Dashboard.opening, Request.run_bind_of_ok (Endpoint.run_tenant_of_recorded recorded session),
    Endpoint.backend, Request.run_bind_of_ok resolves, Request.run_bind, Request.run_demand,
    bound.reachable]
  exact ⟨_, rfl, alike.clock, alike.lifetime, alike.texts⟩

end Bound
end Session

/-- After an endpoint has been resolved it is cached, unless nothing stays cached. -/
theorem Endpoint.known_of_resolve
    {world : World}
    {organization address : String}
    {session after : Session}
    (resolves : (resolve organization).run world session = (.ok address, after)) :
    after.lookup (key organization) = some address ∨
      after.lookup (key organization) = none ∧ after.cache.lifetime = 0 ∧
        world.HasEndpoint organization address := by
  cases cached : session.lookup (key organization) with
  | some found =>
      rw [run_resolve_of_some cached] at resolves
      cases resolves
      exact .inl cached
  | none =>
      rw [run_resolve_of_none cached, Request.run_bind_eq_ok_iff] at resolves
      obtain ⟨found, searched, finds, writes⟩ := resolves
      obtain ⟨rfl, rfl⟩ : found = address ∧ searched.write (key organization) found = after := by
        cases writes
        exact ⟨rfl, rfl⟩
      have search : Request.Ensures world (fun _ => True) (find organization)
          (world.HasEndpoint organization) :=
        ensures_find (fun _ _ _ _ => trivial) organization
      have has : world.HasEndpoint organization found :=
        (search session trivial).2 found (by rw [finds])
      have looked := Session.lookup_write_self searched (key organization) found
      by_cases dead : searched.cache.lifetime = 0
      · rw [if_pos dead] at looked
        exact .inr ⟨looked, dead, has⟩
      · rw [if_neg dead] at looked
        exact .inl looked

theorem Session.bound_of_opening
    {world : World}
    {organization address : String}
    {session after : Session}
    (opens : (Dashboard.opening organization).run world session = (.ok address, after)) :
    after.Bound world organization address := by
  rw [Dashboard.opening, Request.run_bind_eq_ok_iff] at opens
  obtain ⟨record, identified, finds, opens⟩ := opens
  rw [Endpoint.backend, Request.run_bind_eq_ok_iff] at opens
  obtain ⟨found, resolved, resolves, opens⟩ := opens
  rw [Request.run_bind_eq_ok_iff] at opens
  obtain ⟨_, connected, connects, yields⟩ := opens
  rw [Request.run_demand, Prod.mk.injEq] at connects
  obtain ⟨reachable, rfl⟩ := connects
  cases yields
  have search : Request.Ensures world (fun _ => True) (Endpoint.tenant organization)
      fun record => world.organization organization = .ok (some record) :=
    Endpoint.ensures_tenant (fun _ _ _ _ => trivial) organization
  have recorded : world.organization organization = .ok (some record) :=
    (search session trivial).2 record (by rw [finds])
  have known := Endpoint.known_of_resolve resolves
  exact ⟨⟨record, recorded⟩, reachable, known⟩

/-- A session is bound to its backend after a chart as it was before. -/
theorem Session.Bound.chart
    {world : World}
    {organization address : String}
    {session : Session}
    (bound : session.Bound world organization address)
    (parameters : ChartParameters)
    (now : Calendar.Instant)
    (kind : ChartKind) :
    ((Dashboard.chart organization address parameters now kind).run world session).2.Bound
      world organization address := by
  have spared :=
    Session.Spares.chart organization organization address parameters now kind world session
  refine ⟨bound.recorded, bound.reachable, ?_⟩
  rw [spared.lookup, spared.lifetime]
  exact bound.known

/-! ## Results put together -/

namespace Dashboard

/-- The charts of results that follow one another, or the first failure. -/
def joined : List (Except DashboardError (List Chart)) → Except DashboardError (List Chart)
  | [] => .ok []
  | .error fault :: _ => .error fault
  | .ok charts :: rest => (joined rest).map (charts ++ ·)

theorem joined_eq_ok_iff
    (results : List (Except DashboardError (List Chart)))
    (charts : List Chart) :
    joined results = .ok charts ↔
      ∃ parts : List (List Chart), results = parts.map .ok ∧ charts = parts.flatten := by
  induction results generalizing charts with
  | nil => simp [joined, eq_comm]
  | cons result rest inductionHypothesis =>
      cases result with
      | error fault =>
          simp only [joined, reduceCtorEq, false_iff]
          rintro ⟨parts, same, _⟩
          cases parts <;> cases same
      | ok first =>
          constructor
          · intro joins
            cases restJoined : joined rest with
            | error fault => simp [joined, restJoined, Except.map] at joins
            | ok last =>
                obtain ⟨parts, rfl, rfl⟩ := (inductionHypothesis last).mp restJoined
                simp only [joined, restJoined, Except.map, Except.ok.injEq] at joins
                exact ⟨first :: parts, rfl, joins.symm⟩
          · rintro ⟨parts, same, rfl⟩
            cases parts with
            | nil => cases same
            | cons part parts =>
                rw [List.map_cons, List.cons.injEq, Except.ok.injEq] at same
                obtain ⟨rfl, rfl⟩ := same
                rw [joined, (inductionHypothesis parts.flatten).mpr ⟨parts, rfl, rfl⟩]
                rfl

theorem joined_eq_error_iff
    (results : List (Except DashboardError (List Chart)))
    (fault : DashboardError) :
    joined results = .error fault ↔
      ∃ (front : List (List Chart)) (back : List (Except DashboardError (List Chart))),
        results = front.map .ok ++ .error fault :: back := by
  induction results with
  | nil => simp [joined]
  | cons result rest inductionHypothesis =>
      cases result with
      | error found =>
          constructor
          · intro joins
            cases joins
            exact ⟨[], rest, rfl⟩
          · rintro ⟨front, back, same⟩
            cases front <;> cases same
            rfl
      | ok first =>
          constructor
          · intro joins
            cases restJoined : joined rest with
            | ok last => simp [joined, restJoined, Except.map] at joins
            | error found =>
                simp only [joined, restJoined, Except.map, Except.error.injEq] at joins
                rw [← joins] at inductionHypothesis
                obtain ⟨front, back, rfl⟩ := inductionHypothesis.mp restJoined
                exact ⟨first :: front, back, by rw [← joins]; rfl⟩
          · rintro ⟨front, back, same⟩
            cases front with
            | nil => cases same
            | cons part front =>
                rw [List.map_cons, List.cons_append, List.cons.injEq] at same
                rw [joined, inductionHypothesis.mpr ⟨front, back, same.2⟩]
                rfl

end Dashboard

/-! ## One kind after the other -/

/-- The request for the charts of one kind. -/
def Step.single
    (organization : String)
    (parameters : ChartParameters)
    (now : Calendar.Instant)
    (kind : ChartKind) : Step :=
  .charts organization kind.name parameters now

theorem ChartSelection.read_name
    (kind : ChartKind) :
    read kind.name = .ok (single kind) := by
  cases kind <;> rfl

namespace RunState

variable
  {world : World}
  {organization address : String}
  {parameters : ChartParameters}
  {now : Calendar.Instant}

theorem step_single
    (state : RunState)
    (kind : ChartKind) :
    state.step (Step.single organization parameters now kind) =
      state.answer (Dashboard.charts organization kind.name parameters now) .charts := rfl

/-- Requests for single kinds yield charts or fail, each of them. -/
theorem exists_results
    (kinds : List ChartKind)
    (state : RunState) :
    ∃ results : List (Except DashboardError (List Chart)),
      (state.run (kinds.map (Step.single organization parameters now))).1 =
        results.map .charts := by
  induction kinds generalizing state with
  | nil => exact ⟨[], rfl⟩
  | cons kind rest inductionHypothesis =>
      rcases runs : (Dashboard.charts organization kind.name parameters now).run state.world
        state.session with ⟨result, after⟩
      obtain ⟨results, same⟩ := inductionHypothesis ⟨state.world, after⟩
      refine ⟨result :: results, ?_⟩
      rw [List.map_cons, run_cons, step_single, answer_of_run state runs, same]
      rfl

variable (world organization address parameters now) in
/-- The charts of these kinds, made at once from one session, agree with the
requests for single kinds made one after the other from another. -/
def AgreesWithEach
    (kinds : List ChartKind)
    (left right : Session) : Prop :=
  let once := (kinds.mapM (Dashboard.chart organization address parameters now)).run world left
  let each := (RunState.mk world right).run (kinds.map (Step.single organization parameters now))
  ∃ results, each.1 = results.map .charts ∧ once.1 = Dashboard.joined results ∧
    ∀ charts, once.1 = .ok charts → once.2.LooksLike each.2.session

/-- A request for one kind opens the session and makes one chart. -/
theorem run_charts_single
    {right opened : Session}
    (opens : (Dashboard.opening organization).run world right = (.ok address, opened))
    {kind : ChartKind}
    {result : Except DashboardError Chart}
    {after : Session}
    (makes : (Dashboard.chart organization address parameters now kind).run world opened =
      (result, after)) :
    (Dashboard.charts organization kind.name parameters now).run world right =
      (result.map ([·]), after) := by
  rw [Dashboard.charts_of_read (ChartSelection.read_name kind), Request.run_bind_of_ok opens,
    ChartSelection.kinds_single, List.mapM_cons, List.mapM_nil, Request.run_bind, makes]
  cases result <;> rfl

/-- The first kind agrees when the session of its request opens to one that looks
like the session of all charts; the kinds after it are made in sessions that are
bound to the backend. -/
theorem AgreesWithEach.cons
    {left right opened : Session}
    (opens : (Dashboard.opening organization).run world right = (.ok address, opened))
    (alike : left.LooksLike opened)
    {kind : ChartKind}
    {rest : List ChartKind}
    (restAgrees : ∀ left right : Session, left.LooksLike right →
      right.Bound world organization address →
        AgreesWithEach world organization address parameters now rest left right) :
    AgreesWithEach world organization address parameters now (kind :: rest) left right := by
  have paired := (Request.composesDashboard_paired world).chart (fun _ _ => trivial)
    organization address parameters now kind left opened alike
  have bound := (Session.bound_of_opening opens).chart parameters now kind
  rcases leftMakes : (Dashboard.chart organization address parameters now kind).run world left
    with ⟨leftResult, leftAfter⟩
  rcases makes : (Dashboard.chart organization address parameters now kind).run world opened
    with ⟨result, after⟩
  rw [leftMakes, makes] at paired
  rw [makes] at bound
  obtain ⟨agree, alikeAfter⟩ := paired
  have answered : (RunState.mk world right).answer
      (Dashboard.charts organization kind.name parameters now) .charts =
        (.charts (result.map ([·])), ⟨world, after⟩) :=
    answer_of_run (RunState.mk world right) (run_charts_single opens makes) .charts
  unfold AgreesWithEach
  rw [List.mapM_cons, List.map_cons, run_cons, step_single, answered]
  cases agree with
  | error =>
      obtain ⟨results, same⟩ := exists_results rest ⟨world, after⟩
      rw [Request.run_bind_of_error leftMakes]
      exact ⟨.error _ :: results, congrArg _ same, rfl, nofun⟩
  | ok same =>
      obtain rfl := same
      obtain ⟨results, each, once, ends⟩ := restAgrees leftAfter after alikeAfter bound
      rw [Request.run_bind_of_ok leftMakes, Request.run_bind]
      rcases restMakes : (rest.mapM (Dashboard.chart organization address parameters now)).run
        world leftAfter with ⟨fault | charts, last⟩
      · rw [restMakes] at once
        refine ⟨.ok [_] :: results, congrArg _ each, ?_, nofun⟩
        rw [Dashboard.joined, ← once]
        rfl
      · rw [restMakes] at once ends
        refine ⟨.ok [_] :: results, congrArg _ each, ?_, fun _ _ => ends charts rfl⟩
        rw [Dashboard.joined, ← once]
        rfl

/-- In a session that is bound to its backend all kinds agree. -/
theorem agreesWithEach_of_bound
    (kinds : List ChartKind)
    {left right : Session}
    (alike : left.LooksLike right)
    (bound : right.Bound world organization address) :
    AgreesWithEach world organization address parameters now kinds left right := by
  induction kinds generalizing left right with
  | nil => exact ⟨[], rfl, rfl, fun _ _ => alike⟩
  | cons kind rest inductionHypothesis =>
      obtain ⟨opened, opens, openedAlike⟩ := bound.run_opening
      exact .cons opens (alike.trans openedAlike.symm) fun _ _ => inductionHypothesis

/-- A request for all charts agrees with the requests for single kinds. -/
theorem exists_results_of_all
    (state : RunState)
    (organization : String)
    (parameters : ChartParameters)
    (now : Calendar.Instant) :
    let each := state.run (ChartKind.all.map (Step.single organization parameters now))
    let once := (Dashboard.charts organization "all" parameters now).run state.world state.session
    ∃ results, each.1 = results.map .charts ∧ once.1 = Dashboard.joined results ∧
      ∀ charts, once.1 = .ok charts → once.2.LooksLike each.2.session := by
  have reads : ChartSelection.read "all" = .ok .all := rfl
  rw [Dashboard.charts_of_read reads, ChartSelection.kinds_all, ChartKind.all]
  rcases opens : (Dashboard.opening organization).run state.world state.session with
    ⟨fault | address, opened⟩
  · -- The first single kind fails as the request for all charts does.
    have fails : (Dashboard.charts organization ChartKind.cpu.name parameters now).run
        state.world state.session = (.error fault, opened) := by
      rw [Dashboard.charts_of_read (ChartSelection.read_name .cpu),
        Request.run_bind_of_error opens]
    obtain ⟨results, same⟩ :=
      exists_results [.memory, .pod, .traffic, .podCalendar] ⟨state.world, opened⟩
    rw [Request.run_bind_of_error opens, List.map_cons, run_cons, step_single,
      answer_of_run state fails]
    refine ⟨.error fault :: results, congrArg _ same, rfl, ?_⟩
    intro charts succeeds
    cases succeeds
  · rw [Request.run_bind_of_ok opens]
    exact AgreesWithEach.cons opens (.refl opened) fun _ _ => agreesWithEach_of_bound _

/-- A request for all charts succeeds exactly when the requests for the single
kinds do, one after the other, and yields their charts in order; both then leave
the same visible texts behind.  Otherwise it fails as the first of them that
fails. -/
theorem charts_all_eq_each_kind
    (state : RunState)
    (organization : String)
    (parameters : ChartParameters)
    (now : Calendar.Instant) :
    let each := state.run
      (["cpu", "memory", "pod", "traffic", "pod_calendar"].map fun chartType =>
        .charts organization chartType parameters now)
    let once := state.step (.charts organization "all" parameters now)
    ∃ whole results, once.1 = .charts whole ∧ each.1 = results.map .charts ∧
      (∀ charts, whole = .ok charts ↔
        ∃ parts : List (List Chart), results = parts.map .ok ∧ charts = parts.flatten) ∧
      (∀ fault, whole = .error fault ↔
        ∃ (front : List (List Chart)) (back : List (Except DashboardError (List Chart))),
          results = front.map .ok ++ .error fault :: back) ∧
      ∀ charts, whole = .ok charts → once.2.session.LooksLike each.2.session := by
  intro each once
  obtain ⟨results, eachResults, joins, ends⟩ :=
    exists_results_of_all state organization parameters now
  refine ⟨Dashboard.joined results, results, congrArg Outcome.charts joins, eachResults,
    ?_, ?_, ?_⟩
  · exact Dashboard.joined_eq_ok_iff results
  · exact Dashboard.joined_eq_error_iff results
  · intro charts succeeds
    exact ends charts (joins.trans succeeds)

/-- In the sample world the request for all charts succeeds, so both ways leave the
same visible texts behind. -/
theorem sample_charts_all_eq_each_kind :
    ∃ charts,
      ((begin World.sample 10).step
          (.charts "acme" "all" ⟨none, none, none, none⟩ ⟨0, 0⟩)).1 = .charts (.ok charts) ∧
        ((begin World.sample 10).step
            (.charts "acme" "all" ⟨none, none, none, none⟩ ⟨0, 0⟩)).2.session.LooksLike
          ((begin World.sample 10).run
            (["cpu", "memory", "pod", "traffic", "pod_calendar"].map fun chartType =>
              .charts "acme" chartType ⟨none, none, none, none⟩ ⟨0, 0⟩)).2.session := by
  obtain ⟨whole, _, yields, _, _, _, ends⟩ :=
    charts_all_eq_each_kind (begin World.sample 10) "acme" ⟨none, none, none, none⟩ ⟨0, 0⟩
  obtain ⟨charts, succeeds⟩ : ∃ charts,
      ((begin World.sample 10).step
        (.charts "acme" "all" ⟨none, none, none, none⟩ ⟨0, 0⟩)).1 = .charts (.ok charts) :=
    ⟨_, rfl⟩
  have same : whole = .ok charts := by
    rw [succeeds] at yields
    exact (Outcome.charts.inj yields).symm
  exact ⟨charts, succeeds, ends charts same⟩

end RunState
end FleetDashboard
