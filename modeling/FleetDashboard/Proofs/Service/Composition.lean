import FleetDashboard.Proofs.Service.Question
import FleetDashboard.Proofs.Service.Search

/-!
# What requests have from their parts

All that the dashboard does is put together from questions to collaborators, the
resolution of endpoints and the resolution of names.  A property of requests that
these have, and that is handed on from the parts of a request to the whole, holds
of everything that a dashboard requests.
-/

namespace FleetDashboard

/-! ## Requests of a backend that is known -/

namespace Dashboard

/-- The cards of an organization's clusters, once its backend is known. -/
def summariesAt
    (organization backend : String) : Request (List StackSummary) := do
  let clusters ← clusters organization
  let memoryDisk ← instantQuery backend memoryDiskQuery
  let load ← instantQuery backend loadQuery
  pure (StackSummary.ofSamples clusters memoryDisk load)

/-- The totals of an organization, once its backend is known. -/
def resourcesAt
    (organization backend : String) : Request ResourceTotals := do
  let clusters ← clusters organization
  let cores ← instantQuery backend coresQuery
  let memory ← instantQuery backend memoryQuery
  let storage ← instantQuery backend storageQuery
  pure (ResourceTotals.ofSamples clusters cores memory storage)

theorem summaries_eq
    (organization : String) :
    summaries organization = Endpoint.backend organization >>= summariesAt organization := rfl

theorem resources_eq
    (organization : String) :
    resources organization = Endpoint.backend organization >>= resourcesAt organization := rfl

end Dashboard

/-- The window of the month that is asked for, which is the current one unless it is
named. -/
def ChartParameters.monthWindow
    (parameters : ChartParameters)
    (now : Calendar.Instant) : Except DashboardError MonthWindow :=
  MonthWindow.request (parameters.year.getD now.date.year)
    (parameters.month.getD now.date.month) now

/-! ## Composed properties -/

/-- The call belongs to the search for an endpoint. -/
def Call.isSearch : Call → Bool
  | .organization _ | .registry _ | .service _ _ _ => true
  | _ => false

/-- The call is made for what is asked for, and not on the way to an endpoint or to a
name. -/
def Call.isDirect : Call → Bool
  | .registry _ | .service _ _ _ | .cluster _ => false
  | _ => true

/-- A property that values and questions have, and that the parts of a request hand
on to the whole.  It is about the questions that `asks` allows; queries are asked at
`backend`. -/
structure Composes
    (backend : String)
    (asks : Call → Prop)
    (holds : (α : Type) → Request α → Prop) : Prop where
  pure : ∀ {α : Type} (value : α), holds α (pure value)
  bind : ∀ {α β : Type} (request : Request α) (next : α → Request β),
    holds α request → (∀ value, holds β (next value)) → holds β (request >>= next)
  question : ∀ call, asks call → holds call.Answer (Request.question backend call)

/-- A composed property that checks have too, and that may depend on the namespace
of the endpoints. -/
structure ComposesSearches
    (backend : String)
    (asks : Call → Prop)
    (holds : (α : Type) → Request α → Prop) : Prop extends Composes backend asks holds where
  ofExcept : ∀ {α : Type} (result : Except DashboardError α),
    holds α (Request.ofExcept result)
  metricsNamespace : ∀ {α : Type} (next : String → Request α),
    (∀ space, holds α (next space)) →
      holds α (Request.world >>= fun world => next world.metricsNamespace)

/-- A composed property that the resolution of names has too. -/
structure ComposesCharts
    (backend : String)
    (asks : Call → Prop)
    (holds : (α : Type) → Request α → Prop) : Prop extends Composes backend asks holds where
  clusterName : ∀ cluster, holds String (ClusterName.resolve cluster)

namespace Composes

variable
  {backend : String}
  {asks : Call → Prop}
  {holds : (α : Type) → Request α → Prop}

theorem mapM
    (composes : Composes backend asks holds)
    {α β : Type}
    {make : α → Request β}
    {items : List α}
    (each : ∀ item ∈ items, holds β (make item)) :
    holds (List β) (items.mapM make) := by
  induction items with
  | nil =>
      rw [List.mapM_nil]
      exact composes.pure []
  | cons item rest inductionHypothesis =>
      rw [List.mapM_cons]
      apply composes.bind _ _ (each item List.mem_cons_self)
      intro value
      refine composes.bind _ _ (inductionHypothesis ?_) ?_
      · intro other member
        exact each other (List.mem_cons_of_mem item member)
      · intro values
        exact composes.pure (value :: values)

theorem clusterName
    (composes : Composes backend asks holds)
    {cluster : String}
    (remembered : holds (Option String) (Request.remembered (ClusterName.key cluster)))
    (remember : ∀ name, holds Unit (Request.remember (ClusterName.key cluster) name))
    (lookup : holds (Except String (Option Cluster))
      (Request.ask (.cluster cluster) (·.cluster cluster))) :
    holds String (ClusterName.resolve cluster) := by
  apply composes.bind _ _ remembered
  intro cached
  cases cached with
  | some name => exact composes.pure name
  | none =>
      apply composes.bind _ _ lookup
      intro answer
      match answer with
      | .ok (some record) =>
          apply composes.bind _ _ (remember record.name)
          intro _
          exact composes.pure record.name
      | .ok none => exact composes.pure cluster
      | .error _ => exact composes.pure cluster

theorem seriesName
    (composes : Composes backend asks holds)
    (clusterName : ∀ cluster, holds String (ClusterName.resolve cluster))
    (series : Metrics.Series) :
    holds String (ClusterName.ofSeries series) := by
  unfold ClusterName.ofSeries
  cases series.cluster? with
  | none => exact composes.pure ""
  | some cluster => exact clusterName cluster

theorem rangeChart
    (composes : Composes backend asks holds)
    (clusterName : ∀ cluster, holds String (ClusterName.resolve cluster))
    (allowed : ∀ query start finish step, asks (.rangeQuery query start finish step))
    (organization : String)
    (window : RangeWindow)
    (now : Calendar.Instant)
    (kind : ChartKind)
    (query : String)
    (percentage : Bool) :
    holds Chart
      (Dashboard.rangeChart organization backend window now kind query percentage) := by
  apply composes.bind _ _ (composes.question _ (allowed query _ now _))
  intro series
  apply composes.bind _ _ (composes.mapM fun item _ => composes.seriesName clusterName item)
  intro names
  exact composes.pure _

theorem summariesAt
    (composes : Composes backend asks holds)
    (organization : String)
    (listing : asks (.clustersOf organization))
    (queries : ∀ query, asks (.instantQuery query)) :
    holds (List StackSummary) (Dashboard.summariesAt organization backend) := by
  apply composes.bind _ _ (composes.question _ listing)
  intro clusters
  apply composes.bind _ _ (composes.question _ (queries _))
  intro memoryDisk
  apply composes.bind _ _ (composes.question _ (queries _))
  intro load
  exact composes.pure _

theorem resourcesAt
    (composes : Composes backend asks holds)
    (organization : String)
    (listing : asks (.clustersOf organization))
    (queries : ∀ query, asks (.instantQuery query)) :
    holds ResourceTotals (Dashboard.resourcesAt organization backend) := by
  apply composes.bind _ _ (composes.question _ listing)
  intro clusters
  apply composes.bind _ _ (composes.question _ (queries _))
  intro cores
  apply composes.bind _ _ (composes.question _ (queries _))
  intro memory
  apply composes.bind _ _ (composes.question _ (queries _))
  intro storage
  exact composes.pure _

end Composes

/-! ## Searches -/

namespace ComposesSearches

variable
  {backend : String}
  {asks : Call → Prop}
  {holds : (α : Type) → Request α → Prop}

theorem tenant
    (composes : ComposesSearches backend asks holds)
    {organization : String}
    (allowed : asks (.organization organization)) :
    holds Organization (Endpoint.tenant organization) := by
  apply composes.bind _ _ (composes.question _ allowed)
  intro found
  cases found with
  | none => exact composes.ofExcept _
  | some record => exact composes.pure record

theorem anyService
    (composes : ComposesSearches backend asks holds)
    {cluster space : String}
    (allowed : ∀ name, asks (.service cluster space name)) :
    holds Kubernetes.ServiceEndpoint (Endpoint.anyService cluster space) := by
  apply composes.bind _ _ (composes.question _ (allowed _))
  intro preferred
  cases preferred with
  | some endpoint => exact composes.pure endpoint
  | none =>
      apply composes.bind _ _ (composes.question _ (allowed _))
      intro plain
      cases plain with
      | some endpoint => exact composes.pure endpoint
      | none => exact composes.ofExcept _

theorem locate
    (composes : ComposesSearches backend asks holds)
    (allowed : ∀ call : Call, call.isSearch → asks call)
    (organization : String)
    (record : Organization) :
    holds String (Endpoint.locate organization record) := by
  apply composes.bind _ _ (composes.ofExcept _)
  intro cluster
  apply composes.bind _ _ (composes.question _ (allowed (.registry cluster) rfl))
  intro _
  refine composes.metricsNamespace
    (fun space => Endpoint.anyService cluster space >>= fun endpoint =>
      Request.ofExcept endpoint.address) ?_
  intro space
  apply composes.bind _ _ (composes.anyService fun _ => allowed _ rfl)
  intro endpoint
  exact composes.ofExcept _

theorem find
    (composes : ComposesSearches backend asks holds)
    (allowed : ∀ call : Call, call.isSearch → asks call)
    (organization : String) :
    holds String (Endpoint.find organization) := by
  apply composes.bind _ _ (composes.tenant (allowed _ rfl))
  intro record
  exact composes.locate allowed organization record

theorem resolve
    (composes : ComposesSearches backend asks holds)
    (allowed : ∀ call : Call, call.isSearch → asks call)
    {organization : String}
    (remembered : holds (Option String) (Request.remembered (Endpoint.key organization)))
    (remember : ∀ address, holds Unit (Request.remember (Endpoint.key organization) address)) :
    holds String (Endpoint.resolve organization) := by
  apply composes.bind _ _ remembered
  intro cached
  cases cached with
  | some address => exact composes.pure address
  | none =>
      change holds String (Endpoint.discover organization)
      rw [Endpoint.discover_eq]
      apply composes.bind _ _ (composes.find allowed organization)
      intro address
      apply composes.bind _ _ (remember address)
      intro _
      exact composes.pure address

theorem connected
    (composes : ComposesSearches backend asks holds)
    (allowed : ∀ address, asks (.connect address))
    {organization : String}
    (endpoint : holds String (Endpoint.resolve organization)) :
    holds String (Endpoint.backend organization) := by
  apply composes.bind _ _ endpoint
  intro address
  apply composes.bind _ _ (composes.question _ (allowed address))
  intro _
  exact composes.pure address

/-- What is composed in each of several ways is composed in all of them at once. -/
theorem inEvery
    {ι : Type*}
    {each : ι → (α : Type) → Request α → Prop}
    (composes : ∀ index, ComposesSearches backend asks (each index)) :
    ComposesSearches backend asks fun α request => ∀ index, each index α request where
  pure := fun value index => (composes index).pure value
  bind := fun request next first second index =>
    (composes index).bind request next (first index) fun value => second value index
  question := fun call allowed index => (composes index).question call allowed
  ofExcept := fun result index => (composes index).ofExcept result
  metricsNamespace := fun next each index =>
    (composes index).metricsNamespace next fun space => each space index

end ComposesSearches

/-! ## Charts -/

namespace ComposesCharts

variable
  {backend : String}
  {asks : Call → Prop}
  {holds : (α : Type) → Request α → Prop}

theorem calendarChart
    (composes : ComposesCharts backend asks holds)
    {organization : String}
    (alerts : ∀ start finish, asks (.podRestarts organization start finish))
    {year : Int}
    {month : Nat}
    {now : Calendar.Instant}
    (checked : holds MonthWindow (Request.ofExcept (MonthWindow.request year month now)))
    (kind : ChartKind) :
    holds Chart (Dashboard.calendarChart organization year month now kind) := by
  rw [Dashboard.calendarChart_eq]
  apply composes.bind _ _ checked
  intro window
  apply composes.bind _ _ (composes.question _ (alerts window.start window.finish))
  intro alerts
  exact composes.pure _

/-- Only the calendar asks for alerts and checks a month. -/
theorem chart
    (composes : ComposesCharts backend asks holds)
    {organization : String}
    {parameters : ChartParameters}
    {now : Calendar.Instant}
    {kind : ChartKind}
    (queries : ∀ query start finish step, asks (.rangeQuery query start finish step))
    (alerts : kind = .podCalendar → ∀ start finish, asks (.podRestarts organization start finish))
    (checked : kind = .podCalendar →
      holds MonthWindow (Request.ofExcept (parameters.monthWindow now))) :
    holds Chart (Dashboard.chart organization backend parameters now kind) := by
  cases kind with
  | cpu => exact composes.rangeChart composes.clusterName queries _ _ _ _ _ _
  | memory => exact composes.rangeChart composes.clusterName queries _ _ _ _ _ _
  | pod => exact composes.rangeChart composes.clusterName queries _ _ _ _ _ _
  | traffic => exact composes.rangeChart composes.clusterName queries _ _ _ _ _ _
  | podCalendar => exact composes.calendarChart (alerts rfl) (checked rfl) _

end ComposesCharts

/-! ## Whole requests -/

/-- A composed property of everything that is requested for one organization. -/
structure ComposesFor
    (organization : String)
    (asks : Call → Prop)
    (holds : (α : Type) → Request α → Prop) : Prop where
  searches : ∀ backend, ComposesSearches backend asks holds
  clusterName : ∀ cluster, holds String (ClusterName.resolve cluster)
  endpoint : holds String (Endpoint.resolve organization)

namespace ComposesFor

variable
  {organization : String}
  {asks : Call → Prop}
  {holds : (α : Type) → Request α → Prop}

theorem composesCharts
    (composes : ComposesFor organization asks holds)
    (backend : String) :
    ComposesCharts backend asks holds where
  toComposes := (composes.searches backend).toComposes
  clusterName := composes.clusterName

theorem backend
    (composes : ComposesFor organization asks holds)
    (allowed : ∀ address, asks (.connect address)) :
    holds String (Endpoint.backend organization) :=
  (composes.searches "").connected allowed composes.endpoint

/-- Charts ask everything that is direct but for the clusters of an organization. -/
theorem chart
    (composes : ComposesFor organization asks holds)
    (allowed : ∀ call : Call, call.isDirect → (∀ owner, call ≠ .clustersOf owner) → asks call)
    (backend : String)
    (parameters : ChartParameters)
    (now : Calendar.Instant)
    (kind : ChartKind) :
    holds Chart (Dashboard.chart organization backend parameters now kind) :=
  (composes.composesCharts backend).chart (fun _ _ _ _ => allowed _ rfl (by simp))
    (fun _ _ _ => allowed _ rfl (by simp)) fun _ => (composes.searches backend).ofExcept _

theorem charts
    (composes : ComposesFor organization asks holds)
    (allowed : ∀ call : Call, call.isDirect → (∀ owner, call ≠ .clustersOf owner) → asks call)
    (chartType : String)
    (parameters : ChartParameters)
    (now : Calendar.Instant) :
    holds (List Chart) (Dashboard.charts organization chartType parameters now) := by
  have searches := composes.searches ""
  apply searches.bind _ _ (searches.ofExcept _)
  intro selection
  apply searches.bind _ _ (searches.tenant (allowed _ rfl (by simp)))
  intro _
  apply searches.bind _ _ (composes.backend fun _ => allowed _ rfl (by simp))
  intro backend
  refine searches.mapM ?_
  intro kind _
  exact composes.chart allowed backend parameters now kind

theorem summaries
    (composes : ComposesFor organization asks holds)
    (allowed : ∀ call : Call, call.isDirect → asks call) :
    holds (List StackSummary) (Dashboard.summaries organization) := by
  apply (composes.searches "").bind _ _ (composes.backend fun _ => allowed _ rfl)
  intro backend
  exact (composes.searches backend).summariesAt organization (allowed _ rfl)
    fun _ => allowed _ rfl

theorem resources
    (composes : ComposesFor organization asks holds)
    (allowed : ∀ call : Call, call.isDirect → asks call) :
    holds ResourceTotals (Dashboard.resources organization) := by
  apply (composes.searches "").bind _ _ (composes.backend fun _ => allowed _ rfl)
  intro backend
  exact (composes.searches backend).resourcesAt organization (allowed _ rfl)
    fun _ => allowed _ rfl

end ComposesFor

/-- A composed property of everything that a dashboard requests. -/
structure ComposesDashboard
    (asks : Call → Prop)
    (holds : (α : Type) → Request α → Prop) : Prop where
  searches : ∀ backend, ComposesSearches backend asks holds
  clusterName : ∀ cluster, holds String (ClusterName.resolve cluster)
  endpoint : ∀ organization, holds String (Endpoint.resolve organization)

namespace ComposesDashboard

variable
  {asks : Call → Prop}
  {holds : (α : Type) → Request α → Prop}

/-- It is enough that searches and all uses of the cache have the property, and the
look-ups of names too. -/
theorem of_searches
    (searches : ∀ backend, ComposesSearches backend asks holds)
    (allowed : ∀ call : Call, call.isSearch → asks call)
    (remembered : ∀ key, holds (Option String) (Request.remembered key))
    (remember : ∀ key value, holds Unit (Request.remember key value))
    (lookup : ∀ cluster, holds (Except String (Option Cluster))
      (Request.ask (.cluster cluster) (·.cluster cluster))) :
    ComposesDashboard asks holds where
  searches := searches
  clusterName := fun cluster =>
    (searches "").clusterName (remembered _) (remember _) (lookup cluster)
  endpoint := fun _ => (searches "").resolve allowed (remembered _) (remember _)

theorem composesFor
    (composes : ComposesDashboard asks holds)
    (organization : String) :
    ComposesFor organization asks holds where
  searches := composes.searches
  clusterName := composes.clusterName
  endpoint := composes.endpoint organization

theorem composesCharts
    (composes : ComposesDashboard asks holds)
    (backend : String) :
    ComposesCharts backend asks holds where
  toComposes := (composes.searches backend).toComposes
  clusterName := composes.clusterName

theorem backend
    (composes : ComposesDashboard asks holds)
    (allowed : ∀ address, asks (.connect address))
    (organization : String) :
    holds String (Endpoint.backend organization) :=
  (composes.composesFor organization).backend allowed

theorem chart
    (composes : ComposesDashboard asks holds)
    (allowed : ∀ call : Call, (∀ owner, call ≠ .clustersOf owner) → asks call)
    (organization backend : String)
    (parameters : ChartParameters)
    (now : Calendar.Instant)
    (kind : ChartKind) :
    holds Chart (Dashboard.chart organization backend parameters now kind) :=
  (composes.composesFor organization).chart (fun call _ => allowed call) backend parameters now
    kind

theorem charts
    (composes : ComposesDashboard asks holds)
    (allowed : ∀ call : Call, (∀ owner, call ≠ .clustersOf owner) → asks call)
    (organization chartType : String)
    (parameters : ChartParameters)
    (now : Calendar.Instant) :
    holds (List Chart) (Dashboard.charts organization chartType parameters now) :=
  (composes.composesFor organization).charts (fun call _ => allowed call) chartType parameters
    now

theorem summaries
    (composes : ComposesDashboard asks holds)
    (allowed : ∀ call, asks call)
    (organization : String) :
    holds (List StackSummary) (Dashboard.summaries organization) :=
  (composes.composesFor organization).summaries fun call _ => allowed call

theorem resources
    (composes : ComposesDashboard asks holds)
    (allowed : ∀ call, asks call)
    (organization : String) :
    holds ResourceTotals (Dashboard.resources organization) :=
  (composes.composesFor organization).resources fun call _ => allowed call

end ComposesDashboard

/-! ## Two worlds -/

/-- Where two worlds give the same answers, what is composed of these questions does exactly
the same in both. -/
theorem Request.composesSearches_same
    {left right : World}
    (sameNamespace : left.metricsNamespace = right.metricsNamespace)
    (backend : String)
    {asks : Call → Prop}
    (sameAnswer : ∀ call, asks call → left.answer backend call = right.answer backend call) :
    ComposesSearches backend asks
      fun _ request => ∀ session, request.run left session = request.run right session where
  pure := fun _ _ => rfl
  bind := by
    intro α β request next same nextSame session
    rw [run_bind, run_bind, same]
    rcases request.run right session with ⟨fault | value, after⟩
    · rfl
    · exact nextSame value after
  question := by
    intro call allowed session
    rw [run_question, run_question, sameAnswer call allowed]
  ofExcept := fun _ _ => rfl
  metricsNamespace := by
    intro α next nextSame session
    change (next left.metricsNamespace).run left session =
      (next right.metricsNamespace).run right session
    rw [sameNamespace]
    exact nextSame right.metricsNamespace session

/-! ## What becomes of sessions -/

namespace Request

/-- The session after a request is related to the one before it. -/
def Leads
    (related : Session → Session → Prop)
    (α : Type)
    (request : Request α) : Prop :=
  ∀ world session, related session (request.run world session).2

theorem Leads.of_run
    {related : Session → Session → Prop}
    {request : Request α}
    (leads : Leads related α request)
    {world : World}
    {session after : Session}
    {result : Except DashboardError α}
    (runs : request.run world session = (result, after)) :
    related session after := by
  have led := leads world session
  rw [runs] at led
  exact led

/-- In a world the session after a request is related to the one before it. -/
def LeadsIn
    (world : World)
    (related : Session → Session → Prop)
    (α : Type)
    (request : Request α) : Prop :=
  ∀ session, related session (request.run world session).2

/-- In a world, leading to related sessions is composed of questions whose calls may be
logged. -/
theorem composesSearches_leadsIn
    (world : World)
    {related : Session → Session → Prop}
    (reflexive : ∀ session, related session session)
    (transitive : ∀ {first second third}, related first second → related second third →
      related first third)
    (backend : String)
    {asks : Call → Prop}
    (logged : ∀ session call, asks call → related session (session.log call)) :
    ComposesSearches backend asks (LeadsIn world related) where
  pure := fun _ session => reflexive session
  bind := by
    intro α β request next leads nextLeads session
    have led := leads session
    rw [run_bind]
    rcases outcome : request.run world session with ⟨fault | value, after⟩
    · rw [outcome] at led
      exact led
    · rw [outcome] at led
      exact transitive led (nextLeads value after)
  question := fun call allowed session => logged session call allowed
  ofExcept := fun _ session => reflexive session
  metricsNamespace := fun _ nextLeads session => nextLeads world.metricsNamespace session

/-- Leading to related sessions in every world is composed likewise. -/
theorem composesSearches_leads
    {related : Session → Session → Prop}
    (reflexive : ∀ session, related session session)
    (transitive : ∀ {first second third}, related first second → related second third →
      related first third)
    (backend : String)
    {asks : Call → Prop}
    (logged : ∀ session call, asks call → related session (session.log call)) :
    ComposesSearches backend asks (Leads related) :=
  .inEvery fun world => composesSearches_leadsIn world reflexive transitive backend logged

/-- Charts lead to related sessions too if the look-ups of names may be logged and names
may be cached. -/
theorem composesCharts_leads
    {related : Session → Session → Prop}
    {backend : String}
    {asks : Call → Prop}
    (composes : ComposesSearches backend asks (Leads related))
    (logged : ∀ session cluster, related session (session.log (.cluster cluster)))
    (written : ∀ session cluster name,
      related session (session.write (ClusterName.key cluster) name)) :
    ComposesCharts backend asks (Leads related) where
  toComposes := composes.toComposes
  clusterName := fun cluster =>
    composes.clusterName (fun world session => composes.pure () world session)
      (fun name _ session => written session cluster name)
      (fun _ session => logged session cluster)

end Request

namespace Session

/-- The log has grown, and only by calls of some kind. -/
def Extends
    (kind : Call → Prop)
    (before after : Session) : Prop :=
  ∃ made, after.calls = before.calls ++ made ∧ ∀ call ∈ made, kind call

namespace Extends

variable {kind : Call → Prop}

theorem of_calls_eq
    {before after : Session}
    (same : after.calls = before.calls) :
    before.Extends kind after :=
  ⟨[], by rw [same, List.append_nil], nofun⟩

theorem trans
    {first second third : Session}
    (extended : first.Extends kind second)
    (extendedToo : second.Extends kind third) :
    first.Extends kind third := by
  obtain ⟨made, calls, allowed⟩ := extended
  obtain ⟨more, moreCalls, moreAllowed⟩ := extendedToo
  refine ⟨made ++ more, ?_, List.forall_mem_append.mpr ⟨allowed, moreAllowed⟩⟩
  rw [moreCalls, calls, List.append_assoc]

theorem log
    (session : Session)
    {call : Call}
    (allowed : kind call) :
    session.Extends kind (session.log call) :=
  ⟨[call], rfl, List.forall_mem_singleton.mpr allowed⟩

theorem composesSearches
    (kind : Call → Prop)
    (backend : String) :
    ComposesSearches backend kind (Request.Leads (Extends kind)) :=
  Request.composesSearches_leads (fun _ => of_calls_eq rfl) trans backend fun session _ =>
    log session

theorem resolve
    (allowed : ∀ call : Call, call.isSearch → kind call)
    (organization : String) :
    Request.Leads (Extends kind) String (Endpoint.resolve organization) :=
  (composesSearches kind "").resolve allowed (fun _ _ => of_calls_eq rfl)
    fun _ _ _ => of_calls_eq rfl

theorem composesDashboard
    (searches : ∀ call : Call, call.isSearch → kind call)
    (names : ∀ cluster, kind (.cluster cluster)) :
    ComposesDashboard kind (Request.Leads (Extends kind)) :=
  .of_searches (composesSearches kind) searches (fun _ _ _ => of_calls_eq rfl)
    (fun _ _ _ _ => of_calls_eq rfl) fun cluster _ session => log session (names cluster)

end Extends
end Session

end FleetDashboard
