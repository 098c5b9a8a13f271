import FleetDashboard.Proofs.Service.Ending

/-!
# The order of the stages of a request

A request reaches its backend before it asks for anything that is shown.  When a
collaborator fails it, the calls made so far are those that it would have made
first had that collaborator been well.
-/

namespace FleetDashboard

/-! ## Stages -/

namespace Call

/-- The call asks for something that is shown, once a backend has been reached. -/
def needsBackend : Call → Bool
  | .clustersOf _ | .podRestarts _ _ _ | .instantQuery _ | .rangeQuery _ _ _ _ => true
  | _ => false

end Call

/-- Calls and the result of a request that asks its queries at `backend`: it ends in
order, and it has reached the backend before it asks for anything that is shown. -/
structure World.Course
    (world : World)
    (organization : String)
    (rejects : DashboardError → Prop)
    (backend : String)
    (made : List Call)
    (result : Except DashboardError α) : Prop where
  ends : Ends (world.fatal? backend) (world.Refuses organization rejects) made result
  reachesFirst : ∀ front call back, made = front ++ call :: back → call.needsBackend →
    .connect backend ∈ front ∧ world.connect backend = .ok ()

/-- The first stage of a request: it ends in order, asks for nothing that is shown and
yields a backend that it has reached. -/
structure Request.Opens
    (world : World)
    (organization : String)
    (rejects : DashboardError → Prop)
    (request : Request String) : Prop where
  ends : ∀ backend, EndsIn world backend (world.Refuses organization rejects) String request
  showsNothing : Leads (Session.Extends fun call => call.needsBackend = false) String request
  reaches : ∀ {session after backend}, request.run world session = (.ok backend, after) →
    world.connect backend = .ok () ∧
      ∃ made, after.calls = session.calls ++ made ∧ .connect backend ∈ made

namespace Request.Opens

variable
  {world : World}
  {organization : String}
  {rejects : DashboardError → Prop}

theorem backend
    (world : World)
    (organization : String)
    (rejects : DashboardError → Prop) :
    Opens world organization rejects (Endpoint.backend organization) where
  ends := Endpoint.endsIn_backend
  showsNothing := by
    have composes := Session.Extends.composesSearches (fun call => call.needsBackend = false) ""
    apply composes.connected fun _ => rfl
    apply Session.Extends.resolve
    rintro ⟨⟩ <;> simp [Call.isSearch, Call.needsBackend]
  reaches := by
    intro session after backend yields
    rw [Endpoint.backend, run_bind_eq_ok_iff] at yields
    obtain ⟨address, resolved, resolves, yields⟩ := yields
    rw [run_bind_eq_ok_iff] at yields
    obtain ⟨_, connected, connects, yields⟩ := yields
    rw [run_demand, Prod.mk.injEq] at connects
    obtain ⟨reachable, rfl⟩ := connects
    cases yields
    have extended : session.Extends (fun _ => True) resolved :=
      (Session.Extends.resolve (fun _ _ => trivial) organization).of_run resolves
    obtain ⟨made, calls, _⟩ := extended
    refine ⟨reachable, made ++ [.connect backend], ?_, by simp⟩
    rw [Session.calls_log, calls, List.append_assoc]

/-- A request for charts looks for the tenant before anything else. -/
theorem opening
    (world : World)
    (organization : String)
    (rejects : DashboardError → Prop) :
    Opens world organization rejects (Dashboard.opening organization) where
  ends := by
    intro anyBackend
    apply Endpoint.endsIn_tenant
    intro _ _
    have ends := (backend world organization rejects).ends anyBackend
    exact ends.weaken fun made fault => World.Refuses.prepend [_] made fault
  showsNothing := by
    have composes := Session.Extends.composesSearches (fun call => call.needsBackend = false) ""
    apply composes.bind _ _ (composes.tenant rfl)
    intro _
    exact (backend world organization rejects).showsNothing
  reaches := by
    intro session after address yields
    rw [Dashboard.opening, run_bind_eq_ok_iff] at yields
    obtain ⟨_, identified, looks, yields⟩ := yields
    rw [Endpoint.run_tenant, Prod.mk.injEq] at looks
    obtain ⟨_, rfl⟩ := looks
    obtain ⟨reachable, made, calls, reached⟩ :=
      (backend world organization rejects).reaches yields
    refine ⟨reachable, .organization organization :: made, ?_, List.mem_cons_of_mem _ reached⟩
    rw [calls, Session.calls_log, List.append_assoc, List.singleton_append]

/-- What follows the first stage asks its queries at the backend that is reached. -/
theorem exists_course
    {first : Request String}
    {next : String → Request α}
    (opens : Opens world organization rejects first)
    (nextEnds : ∀ backend,
      EndsIn world backend (world.Refuses organization rejects) α (next backend))
    (session : Session) :
    ∃ backend made,
      ((first >>= next).run world session).2.calls = session.calls ++ made ∧
        world.Course organization rejects backend made
          ((first >>= next).run world session).1 := by
  have showsNothing := opens.showsNothing world session
  rw [run_bind]
  rcases outcome : first.run world session with ⟨fault | backend, opened⟩
  · obtain ⟨made, calls, ended⟩ := opens.ends "" session
    rw [outcome] at calls ended showsNothing
    obtain ⟨same, sameCalls, shown⟩ := showsNothing
    obtain rfl := List.append_cancel_left (calls.symm.trans sameCalls)
    refine ⟨"", made, calls, ended.of_error, ?_⟩
    rintro front call back rfl shows
    rw [shown call (by simp)] at shows
    cases shows
  · obtain ⟨made, calls, ended⟩ := opens.ends backend session
    obtain ⟨reachable, reaching, reachingCalls, reached⟩ := opens.reaches outcome
    rw [outcome] at calls ended showsNothing
    obtain ⟨same, sameCalls, shown⟩ := showsNothing
    obtain rfl := List.append_cancel_left (calls.symm.trans sameCalls)
    obtain rfl := List.append_cancel_left (calls.symm.trans reachingCalls)
    obtain ⟨more, moreCalls, nextEnded⟩ := nextEnds backend opened
    refine ⟨backend, made ++ more, ?_, ?_, ?_⟩
    · rw [moreCalls, calls, List.append_assoc]
    · exact nextEnded.prepend ended.harmless_of_ok (World.Refuses.prepend made)
    · intro front call back split shows
      refine ⟨?_, reachable⟩
      rcases List.append_eq_append_iff.mp split with ⟨rest, rfl, _⟩ | ⟨rest, rfl, parts⟩
      · exact List.mem_append_left rest reached
      · cases rest with
        | nil => simpa using reached
        | cons other rest =>
            obtain rfl : other = call := (List.cons.inj parts).1.symm
            rw [shown other (by simp)] at shows
            cases shows

end Request.Opens

/-! ## Collaborators that are well -/

/-- The parties that the service asks. -/
inductive Collaborator where
  | directory
  | clusterRegistry
  | alertStore
  | controlPlane
  | backendFactory
  | metricsBackend
  deriving DecidableEq, Repr

/-- The party that a call asks. -/
def Call.collaborator : Call → Collaborator
  | .organization _ => .directory
  | .clustersOf _ | .cluster _ => .clusterRegistry
  | .podRestarts _ _ _ => .alertStore
  | .registry _ | .service _ _ _ => .controlPlane
  | .connect _ => .backendFactory
  | .instantQuery _ | .rangeQuery _ _ _ _ => .metricsBackend

/-- Another world that is the same but for calls to one party which fail in this one. -/
structure World.HealsTo
    (broken : World)
    (party : Collaborator)
    (healthy : World) : Prop where
  metricsNamespace : healthy.metricsNamespace = broken.metricsNamespace
  answer : ∀ backend call, healthy.answer backend call = broken.answer backend call ∨
    call.collaborator = party ∧ ∃ fault, broken.answer backend call = .error fault

/-- A request does the same in both worlds, or it fails in the first after calls that
it makes in the second as well. -/
def Request.CutShort
    (broken healthy : World)
    (α : Type)
    (request : Request α) : Prop :=
  ∀ session, session.calls <+: (request.run healthy session).2.calls ∧
    (request.run broken session = request.run healthy session ∨
      ∃ fault after, request.run broken session = (.error fault, after) ∧
        after.calls <+: (request.run healthy session).2.calls)

namespace Request.CutShort

variable {broken healthy : World} {party : Collaborator}

/-- A request that does the same in both worlds. -/
theorem of_same
    {request : Request α}
    (grows : ∀ session, session.calls <+: (request.run healthy session).2.calls)
    (same : ∀ session, request.run broken session = request.run healthy session) :
    CutShort broken healthy α request :=
  fun session => ⟨grows session, .inl (same session)⟩

theorem bind
    {request : Request α}
    {next : α → Request β}
    (cut : CutShort broken healthy α request)
    (nextCut : ∀ value, CutShort broken healthy β (next value)) :
    CutShort broken healthy β (request >>= next) := by
  intro session
  obtain ⟨grows, course⟩ := cut session
  rw [run_bind, run_bind]
  rcases healthyRun : request.run healthy session with ⟨fault | value, after⟩
  · rw [healthyRun] at grows course
    refine ⟨grows, ?_⟩
    rcases course with same | ⟨earlier, cutAfter, fails, shorter⟩
    · rw [same]
      exact .inl rfl
    · rw [fails]
      exact .inr ⟨earlier, cutAfter, rfl, shorter⟩
  · rw [healthyRun] at grows course
    obtain ⟨growsOn, nextCourse⟩ := nextCut value after
    refine ⟨grows.trans growsOn, ?_⟩
    rcases course with same | ⟨earlier, cutAfter, fails, shorter⟩
    · rw [same]
      exact nextCourse
    · rw [fails]
      exact .inr ⟨earlier, cutAfter, rfl, shorter.trans growsOn⟩

theorem question
    (heals : broken.HealsTo party healthy)
    (backend : String)
    (call : Call) :
    CutShort broken healthy call.Answer (Request.question backend call) := by
  intro session
  rw [run_question, run_question]
  refine ⟨List.prefix_append _ _, ?_⟩
  rcases heals.answer backend call with same | ⟨_, fault, fails⟩
  · rw [same]
    exact .inl rfl
  · rw [fails]
    exact .inr ⟨fault, session.log call, rfl, List.prefix_rfl⟩

/-- Nothing but questions tells the two worlds apart. -/
theorem composesSearches
    (heals : broken.HealsTo party healthy)
    (backend : String) :
    ComposesSearches backend (fun _ => True) (CutShort broken healthy) where
  pure := fun _ => of_same (fun _ => List.prefix_rfl) fun _ => rfl
  bind := fun _ _ => bind
  question := fun call _ => question heals backend call
  ofExcept := fun _ => of_same (fun _ => List.prefix_rfl) fun _ => rfl
  metricsNamespace := by
    intro α next nextCut session
    have course := nextCut healthy.metricsNamespace session
    refine ⟨course.1, ?_⟩
    rw [run_bind, run_world, run_bind, run_world]
    dsimp only
    rw [← heals.metricsNamespace]
    exact course.2

theorem resolve
    (heals : broken.HealsTo party healthy)
    (organization : String) :
    CutShort broken healthy String (Endpoint.resolve organization) :=
  (composesSearches heals "").resolve (fun _ _ => trivial)
    (of_same (fun _ => List.prefix_rfl) fun _ => rfl)
    fun _ => of_same (fun _ => List.prefix_rfl) fun _ => rfl

theorem backend
    (heals : broken.HealsTo party healthy)
    (organization : String) :
    CutShort broken healthy String (Endpoint.backend organization) :=
  (composesSearches heals "").connected (fun _ => trivial) (resolve heals organization)

theorem summaries
    (heals : broken.HealsTo party healthy)
    (organization : String) :
    CutShort broken healthy _ (Dashboard.summaries organization) := by
  rw [Dashboard.summaries_eq]
  apply bind (backend heals organization)
  intro backend
  exact (composesSearches heals backend).summariesAt organization trivial fun _ => trivial

theorem resources
    (heals : broken.HealsTo party healthy)
    (organization : String) :
    CutShort broken healthy _ (Dashboard.resources organization) := by
  rw [Dashboard.resources_eq]
  apply bind (backend heals organization)
  intro backend
  exact (composesSearches heals backend).resourcesAt organization trivial fun _ => trivial

/-- The names of clusters are the same unless their registry is the party. -/
theorem clusterName
    (heals : broken.HealsTo party healthy)
    (otherParty : party ≠ .clusterRegistry)
    (cluster : String) :
    CutShort broken healthy String (ClusterName.resolve cluster) := by
  have sameAnswer : healthy.cluster cluster = broken.cluster cluster := by
    rcases heals.answer "" (.cluster cluster) with same | ⟨asked, _⟩
    · exact World.stored_injective same
    · exact absurd asked.symm otherParty
  refine (composesSearches heals "").clusterName ?_ ?_ ?_
  · exact of_same (fun _ => List.prefix_rfl) fun _ => rfl
  · exact fun _ => of_same (fun _ => List.prefix_rfl) fun _ => rfl
  · refine of_same (fun _ => List.prefix_append _ _) fun session => ?_
    rw [run_ask, run_ask, sameAnswer]

theorem charts
    (heals : broken.HealsTo party healthy)
    (otherParty : party ≠ .clusterRegistry)
    (organization chartType : String)
    (parameters : ChartParameters)
    (now : Calendar.Instant) :
    CutShort broken healthy _ (Dashboard.charts organization chartType parameters now) := by
  have composes : ComposesDashboard (fun _ => True) (CutShort broken healthy) :=
    { searches := composesSearches heals
      clusterName := clusterName heals otherParty
      endpoint := resolve heals }
  exact composes.charts (fun _ _ => trivial) organization chartType parameters now

end Request.CutShort

/-! ## Whole requests -/

theorem World.isNameLookup_of_fatal
    {world : World}
    {backend : String}
    {call : Call}
    {fault : DashboardError}
    (fatal : world.fatal? backend call = some fault) :
    call.isNameLookup = false := by
  cases names : call.isNameLookup with
  | false => rfl
  | true =>
      rw [World.fatal?, names, if_pos rfl] at fatal
      cases fatal

/-- In every world and session a request runs its course.  If a collaborator fails it,
then the request makes the same calls, and maybe more after them, when that
collaborator is well. -/
def Request.StopsInOrder
    (organization : String)
    (rejects : DashboardError → Prop)
    (request : Request α) : Prop :=
  ∀ world session, ∃ backend made,
    (request.run world session).2.calls = session.calls ++ made ∧
      world.Course organization rejects backend made (request.run world session).1 ∧
      ∀ front call fault, made = front ++ [call] → world.fatal? backend call = some fault →
        ∀ healthy, world.HealsTo call.collaborator healthy →
          ∃ more, (request.run healthy session).2.calls = session.calls ++ front ++ call :: more

theorem Request.stopsInOrder_of_course
    {organization : String}
    {rejects : DashboardError → Prop}
    {request : Request α}
    (kind : Call → Prop)
    (course : ∀ world session, ∃ backend made,
      (request.run world session).2.calls = session.calls ++ made ∧
        world.Course organization rejects backend made (request.run world session).1)
    (asks : Leads (Session.Extends kind) α request)
    (cut : ∀ {broken healthy call}, kind call → call.isNameLookup = false →
      broken.HealsTo call.collaborator healthy → CutShort broken healthy α request) :
    request.StopsInOrder organization rejects := by
  intro world session
  obtain ⟨backend, made, calls, goes⟩ := course world session
  refine ⟨backend, made, calls, goes, ?_⟩
  rintro front call fault rfl fatal healthy heals
  obtain ⟨same, sameCalls, ofKind⟩ := asks world session
  obtain rfl := List.append_cancel_left (calls.symm.trans sameCalls)
  have isKind := ofKind call (by simp)
  obtain ⟨_, identical | ⟨_, after, fails, shorter⟩⟩ :=
    cut isKind (World.isNameLookup_of_fatal fatal) heals session
  · rw [identical] at calls
    exact ⟨[], by rw [calls, List.append_assoc]⟩
  · rw [fails] at calls
    obtain ⟨more, longer⟩ := shorter
    refine ⟨more, ?_⟩
    rw [← longer, calls]
    simp

namespace Dashboard

/-- The errors with which the parameters of a request for charts are turned down: the
chart type is unknown, or a calendar is to show a month that has none. -/
def Rejects
    (chartType : String)
    (parameters : ChartParameters)
    (now : Calendar.Instant)
    (fault : DashboardError) : Prop :=
  ChartSelection.read chartType = .error fault ∨
    ∃ selection, ChartSelection.read chartType = .ok selection ∧
      .podCalendar ∈ selection.kinds ∧ parameters.monthWindow now = .error fault

theorem endsIn_kinds
    {world : World}
    {organization : String}
    {rejects : DashboardError → Prop}
    {parameters : ChartParameters}
    {now : Calendar.Instant}
    {kinds : List ChartKind}
    (rejected : .podCalendar ∈ kinds → ∀ fault, parameters.monthWindow now = .error fault →
      rejects fault)
    (backend : String) :
    Request.EndsIn world backend (world.Refuses organization rejects) (List Chart)
      (kinds.mapM (chart organization backend parameters now)) := by
  have composes := World.Refuses.composes world organization rejects backend
  have composesCharts : ComposesCharts backend _ _ :=
    { toComposes := composes
      clusterName := Request.EndsIn.clusterName World.Refuses.prepend }
  apply composes.mapM
  intro kind member
  refine composesCharts.chart (fun _ _ _ _ => rfl) (fun _ _ _ => rfl) ?_
  rintro rfl
  refine .ofExcept ?_
  intro fault failed
  exact .parameters [] (rejected member fault failed)

theorem stopsInOrder_charts
    (organization chartType : String)
    (parameters : ChartParameters)
    (now : Calendar.Instant) :
    (charts organization chartType parameters now).StopsInOrder organization
      (Rejects chartType parameters now) := by
  refine Request.stopsInOrder_of_course (fun call => ∀ owner, call ≠ .clustersOf owner) ?_ ?_ ?_
  · intro world session
    cases reads : ChartSelection.read chartType with
    | error unknown =>
        rw [charts_of_unread reads]
        refine ⟨"", [], (List.append_nil _).symm, .refused nofun (.parameters [] (.inl reads)), ?_⟩
        intro front call back empty
        simp at empty
    | ok selection =>
        rw [charts_of_read reads]
        apply (Request.Opens.opening world organization _).exists_course
        intro backend
        apply endsIn_kinds
        intro selected fault failed
        exact .inr ⟨selection, reads, selected, failed⟩
  · apply ComposesDashboard.charts
    · apply Session.Extends.composesDashboard
      · rintro ⟨⟩ <;> simp [Call.isSearch]
      · simp
    · exact fun _ => id
  · intro broken healthy call notListing notName heals
    refine Request.CutShort.charts heals ?_ organization chartType parameters now
    cases call <;> simp_all [Call.collaborator, Call.isNameLookup]

theorem stopsInOrder_summaries
    (organization : String) :
    (summaries organization).StopsInOrder organization fun _ => False := by
  refine Request.stopsInOrder_of_course (fun _ => True) ?_ ?_ ?_
  · intro world session
    rw [summaries_eq]
    apply (Request.Opens.backend world organization _).exists_course
    intro backend
    exact (World.Refuses.composes world organization _ backend).summariesAt organization rfl
      fun _ => rfl
  · apply ComposesDashboard.summaries
    · exact Session.Extends.composesDashboard (fun _ _ => trivial) fun _ => trivial
    · exact fun _ => trivial
  · intro broken healthy call _ _ heals
    exact Request.CutShort.summaries heals organization

theorem stopsInOrder_resources
    (organization : String) :
    (resources organization).StopsInOrder organization fun _ => False := by
  refine Request.stopsInOrder_of_course (fun _ => True) ?_ ?_ ?_
  · intro world session
    rw [resources_eq]
    apply (Request.Opens.backend world organization _).exists_course
    intro backend
    exact (World.Refuses.composes world organization _ backend).resourcesAt organization rfl
      fun _ => rfl
  · apply ComposesDashboard.resources
    · exact Session.Extends.composesDashboard (fun _ _ => trivial) fun _ => trivial
    · exact fun _ => trivial
  · intro broken healthy call _ _ heals
    exact Request.CutShort.resources heals organization

/-! ## Rejected months -/

/-- The charts of these kinds, the calendar excepted. -/
def rangeCharts
    (organization : String)
    (kinds : List ChartKind)
    (parameters : ChartParameters)
    (now : Calendar.Instant) : Request (List Chart) := do
  let backend ← opening organization
  (kinds.filter (· ≠ .podCalendar)).mapM (chart organization backend parameters now)

theorem rangeCharts_asks_no_alerts
    (organization : String)
    (kinds : List ChartKind)
    (parameters : ChartParameters)
    (now : Calendar.Instant) :
    Request.Leads
      (Session.Extends fun call => ∀ owner start finish, call ≠ .podRestarts owner start finish)
      _ (rangeCharts organization kinds parameters now) := by
  have composes : ComposesDashboard _ (Request.Leads (Session.Extends fun call =>
      ∀ owner start finish, call ≠ .podRestarts owner start finish)) :=
    Session.Extends.composesDashboard (by rintro ⟨⟩ <;> simp [Call.isSearch]) (by simp)
  have searches := composes.searches ""
  unfold rangeCharts
  apply searches.bind
  · apply searches.bind _ _ (searches.tenant (by simp))
    intro _
    exact composes.backend (by simp) organization
  intro backend
  refine searches.mapM ?_
  intro kind member
  have notCalendar : kind ≠ .podCalendar := by simpa using (List.mem_filter.mp member).2
  exact (composes.composesCharts backend).chart (by simp) (fun same => absurd same notCalendar)
    fun same => absurd same notCalendar

/-- A selection with the calendar shows it last. -/
theorem kinds_eq_append
    {selection : ChartSelection}
    (selected : .podCalendar ∈ selection.kinds) :
    selection.kinds = selection.kinds.filter (· ≠ .podCalendar) ++ [.podCalendar] := by
  cases selection with
  | all => rfl
  | single kind =>
      obtain rfl := List.mem_singleton.mp selected
      rfl

/-- A month that is turned down ends a request for charts after the other kinds. -/
theorem charts_of_month_error
    {chartType : String}
    {selection : ChartSelection}
    {parameters : ChartParameters}
    {now : Calendar.Instant}
    {fault : DashboardError}
    (reads : ChartSelection.read chartType = .ok selection)
    (selected : .podCalendar ∈ selection.kinds)
    (rejected : parameters.monthWindow now = .error fault)
    (organization : String) :
    charts organization chartType parameters now =
      rangeCharts organization selection.kinds parameters now >>= fun _ =>
        Request.ofExcept (.error fault) := by
  have turnedDown : ∀ backend, chart organization backend parameters now .podCalendar =
      Request.ofExcept (.error fault) := by
    intro backend
    change (Request.ofExcept (parameters.monthWindow now) >>= _) = _
    rw [rejected]
    rfl
  have endsThere : ∀ backend (front : List ChartKind),
      (front ++ [ChartKind.podCalendar]).mapM (chart organization backend parameters now) =
        front.mapM (chart organization backend parameters now) >>= fun _ =>
          Request.ofExcept (.error fault) := by
    intro backend front
    rw [List.mapM_append, List.mapM_cons, turnedDown]
    rfl
  have same : (fun backend => selection.kinds.mapM (chart organization backend parameters now)) =
      fun backend =>
        (selection.kinds.filter (· ≠ .podCalendar)).mapM
          (chart organization backend parameters now) >>= fun _ =>
            Request.ofExcept (.error fault) := by
    funext backend
    rw [← endsThere, ← kinds_eq_append selected]
  rw [charts_of_read reads, rangeCharts, bind_assoc, same]

/-- Every request of a dashboard stops in order.  An unknown chart type is reported
before any call; a month that is turned down is reported after the other kinds of
charts, and nobody is asked for alerts. -/
theorem requests_stop_in_order
    (organization : String) :
    (∀ chartType parameters now,
      (charts organization chartType parameters now).StopsInOrder organization
        (Rejects chartType parameters now)) ∧
    (summaries organization).StopsInOrder organization (fun _ => False) ∧
    (resources organization).StopsInOrder organization (fun _ => False) ∧
    (∀ chartType parameters now fault, ChartSelection.read chartType = .error fault →
      ∀ world session, (charts organization chartType parameters now).run world session =
        (.error fault, session)) ∧
    ∀ chartType selection parameters now fault,
      ChartSelection.read chartType = .ok selection → .podCalendar ∈ selection.kinds →
      parameters.monthWindow now = .error fault →
        charts organization chartType parameters now =
            (rangeCharts organization selection.kinds parameters now >>= fun _ =>
              Request.ofExcept (.error fault)) ∧
          ∀ world (session : Session), session.Extends
            (fun call => ∀ owner start finish, call ≠ .podRestarts owner start finish)
            ((charts organization chartType parameters now).run world session).2 := by
  refine ⟨stopsInOrder_charts organization, stopsInOrder_summaries organization,
    stopsInOrder_resources organization, ?_, ?_⟩
  · intro chartType parameters now fault unread world session
    rw [charts_of_unread unread, Request.run_ofExcept]
  · intro chartType selection parameters now fault reads selected rejected
    have same := charts_of_month_error reads selected rejected organization
    refine ⟨same, ?_⟩
    rw [same]
    have composes := Session.Extends.composesSearches
      (fun call => ∀ owner start finish, call ≠ .podRestarts owner start finish) ""
    apply composes.bind _ _ (rangeCharts_asks_no_alerts organization selection.kinds parameters now)
    intro _
    exact composes.ofExcept _

/-- When no backend can be reached, the request for the totals ends there; these are
the first calls of the request that succeeds. -/
theorem sample_stops_in_order :
    let down := DashboardError.transport "down"
    let broken : World := { World.sample with connect := fun _ => .error down }
    let calls : List Call := [.organization "acme", .registry "c1",
      .service "c1" "lma" Endpoint.preferredService, .service "c1" "lma" Endpoint.plainService,
      .connect "http://thanos:9090"]
    ((resources "acme").run broken (Session.begin 10)).1 = .error down ∧
      ((resources "acme").run broken (Session.begin 10)).2.calls = calls ∧
      ∃ more, ((resources "acme").run World.sample (Session.begin 10)).2.calls = calls ++ more := by
  intro down broken calls
  have asked : ((resources "acme").run broken (Session.begin 10)).2.calls = calls := by decide
  obtain ⟨backend, made, madeCalls, _, cut⟩ :=
    (requests_stop_in_order "acme").2.2.1 broken (Session.begin 10)
  obtain rfl : made = calls := madeCalls.symm.trans asked
  have heals : broken.HealsTo .backendFactory World.sample := by
    refine ⟨rfl, ?_⟩
    intro backend call
    cases call with
    | connect address => exact .inr ⟨rfl, down, rfl⟩
    | _ => exact .inl rfl
  exact ⟨rfl, asked, cut (calls.take 4) (.connect "http://thanos:9090") down rfl rfl _ heals⟩

end Dashboard
end FleetDashboard
