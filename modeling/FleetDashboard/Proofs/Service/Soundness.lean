import FleetDashboard.Proofs.Cache.Lookup
import FleetDashboard.Proofs.Service.History

/-!
# What requests hand out

A session is witnessed when each of its cached texts goes back to an instant at
which the world vouched for it.  A request keeps a session witnessed, even when it
fails midway, and the endpoints and names that it hands out were true no longer
ago than a cached text lives.
-/

namespace FleetDashboard

/-! ## Vantage points -/

/-- What can be seen from where a run stands: the present world and the instants
that lie behind, each with the world as it was. -/
structure Vantage where
  past : Nat → World → Prop
  /-- Lifetime of cached texts. -/
  lifetime : Nat
  now : Nat
  world : World
  /-- The present counts as visited. -/
  present : past now world
  /-- Nothing visited lies ahead. -/
  notAhead : ∀ moment former, past moment former → moment ≤ now

namespace Vantage

/-- A fact holds in the present world, or held at a visited instant that lies
back less than the lifetime of a cached text. -/
def Recently
    (view : Vantage)
    (fact : World → Prop) : Prop :=
  fact view.world ∨
    ∃ moment former, view.past moment former ∧ moment ≤ view.now ∧
      view.now < moment + min view.lifetime Cache.longestLifetime ∧ fact former

/-- A name under which a cluster is shown: one that it had recently, or its id
while no name is on record. -/
def ShowsName
    (view : Vantage)
    (cluster name : String) : Prop :=
  view.Recently (·.HasName cluster name) ∨
    name = cluster ∧ ∀ recorded, ¬view.world.HasName cluster recorded

/-- The name under which a series is shown: that of its cluster, if it has one. -/
def ShowsSeries
    (view : Vantage)
    (series : Metrics.Series)
    (name : String) : Prop :=
  match series.cluster? with
  | some cluster => view.ShowsName cluster name
  | none => name = ""

/-- The series of a range chart are those that a backend answered, each under the
name of its cluster. -/
def ShowsChart
    (view : Vantage)
    (chart : Chart) : Prop :=
  ∀ window, chart.window = .range window →
    ∃ address query start finish step answered,
      view.world.rangeQuery address query start finish step = .ok answered ∧
        List.Forall₂ (fun series shown => view.ShowsSeries series shown.name)
          answered chart.series

end Vantage

namespace Session

/-! ## Witnessed sessions -/

/-- Every cached text goes back to an instant of the past whose world vouched for
it, and expires one lifetime after that instant. -/
structure Witnessed
    (view : Vantage)
    (session : Session) : Prop where
  sameLifetime : session.cache.lifetime = view.lifetime
  sameClock : session.clock = view.now
  entries : ∀ entry ∈ session.cache.entries, ∃ moment former, view.past moment former ∧
    entry.expiry = moment + min view.lifetime Cache.longestLifetime ∧
      former.Vouches entry.key entry.value

namespace Witnessed

variable {view : Vantage} {session : Session}

theorem log
    (witnessed : session.Witnessed view)
    (call : Call) :
    (session.log call).Witnessed view :=
  ⟨witnessed.sameLifetime, witnessed.sameClock, witnessed.entries⟩

/-- Writing what the present world vouches for keeps a session witnessed. -/
theorem write
    (witnessed : session.Witnessed view)
    {key value : String}
    (vouches : view.world.Vouches key value) :
    (session.write key value).Witnessed view where
  sameLifetime := witnessed.sameLifetime
  sameClock := witnessed.sameClock
  entries := by
    intro entry member
    rcases (Cache.mem_entries_writeFor _ _ _ _ _ _).mp member with rfl | ⟨held, _⟩
    · refine ⟨view.now, view.world, view.present, ?_, vouches⟩
      rw [witnessed.sameLifetime, witnessed.sameClock]
    · exact witnessed.entries entry held

/-- A visible text was vouched for less than a lifetime ago. -/
theorem lookup
    (witnessed : session.Witnessed view)
    {key value : String}
    (visible : session.lookup key = some value) :
    view.Recently (·.Vouches key value) := by
  obtain ⟨entry, member, rfl, rfl, live⟩ := (Cache.lookup_eq_some_iff _ _ _ _).mp visible
  obtain ⟨moment, former, visited, expires, vouches⟩ := witnessed.entries entry member
  rw [witnessed.sameClock, expires] at live
  exact .inr ⟨moment, former, visited, view.notAhead moment former visited, live, vouches⟩

/-- The entries of a session stay witnessed from every later vantage point. -/
theorem later
    (witnessed : session.Witnessed view)
    {after : Vantage}
    (remembers : ∀ moment former, view.past moment former → after.past moment former)
    (sameLifetime : after.lifetime = view.lifetime)
    {next : Session}
    (keptLifetime : next.cache.lifetime = session.cache.lifetime)
    (clock : next.clock = after.now)
    (kept : ∀ entry ∈ next.cache.entries, entry ∈ session.cache.entries) :
    next.Witnessed after where
  sameLifetime := by rw [keptLifetime, witnessed.sameLifetime, sameLifetime]
  sameClock := clock
  entries := by
    intro entry member
    obtain ⟨moment, former, visited, expires, vouches⟩ :=
      witnessed.entries entry (kept entry member)
    rw [← sameLifetime] at expires
    exact ⟨moment, former, remembers moment former visited, expires, vouches⟩

end Witnessed

/-- A session in the middle of a request: it is witnessed, and the backends that
the request has reached since it began are allowed ones. -/
structure Serving
    (view : Vantage)
    (earlier : List Call)
    (allowed : String → Prop)
    (session : Session) : Prop where
  witnessed : session.Witnessed view
  calls : ∃ made, session.calls = earlier ++ made ∧
    ∀ address, .connect address ∈ made → allowed address

namespace Serving

variable {view : Vantage} {earlier : List Call} {allowed : String → Prop} {session : Session}

theorem begin
    (witnessed : session.Witnessed view)
    (allowed : String → Prop) :
    session.Serving view session.calls allowed :=
  ⟨witnessed, [], (List.append_nil _).symm, by simp⟩

theorem log
    (serving : session.Serving view earlier allowed)
    {call : Call}
    (allows : ∀ address, call = .connect address → allowed address) :
    (session.log call).Serving view earlier allowed := by
  obtain ⟨made, calls, allowedMade⟩ := serving.calls
  refine ⟨serving.witnessed.log call, made ++ [call], ?_, ?_⟩
  · rw [calls_log, calls, List.append_assoc]
  · intro address member
    rcases List.mem_append.mp member with inMade | isCall
    · exact allowedMade address inMade
    · exact allows address (List.mem_singleton.mp isCall).symm

/-- Calls other than those that reach a backend are always allowed. -/
theorem logged
    (session : Session)
    (call : Call)
    (notConnect : ∀ address, call ≠ .connect address)
    (serving : session.Serving view earlier allowed) :
    (session.log call).Serving view earlier allowed :=
  serving.log fun address same => absurd same (notConnect address)

theorem write
    (serving : session.Serving view earlier allowed)
    {key value : String}
    (vouches : view.world.Vouches key value) :
    (session.write key value).Serving view earlier allowed :=
  ⟨serving.witnessed.write vouches, serving.calls⟩

end Serving
end Session

/-! ## What requests hand out -/

namespace Vantage

variable {view : Vantage} {earlier : List Call} {allowed : String → Prop}

theorem Recently.vouches_endpoint
    {organization address : String}
    (recently : view.Recently (·.Vouches (Endpoint.key organization) address)) :
    view.Recently (·.HasEndpoint organization address) := by
  simpa only [Recently, World.vouches_endpoint_iff] using recently

theorem Recently.vouches_clusterName
    {cluster name : String}
    (recently : view.Recently (·.Vouches (ClusterName.key cluster) name)) :
    view.Recently (·.HasName cluster name) := by
  simpa only [Recently, World.vouches_clusterName_iff] using recently

/-- The endpoint of an organization is a recent one, and it is cached only when
the present world has it. -/
theorem ensures_resolve_endpoint
    (organization : String) :
    Request.Ensures view.world (Session.Serving view earlier allowed)
      (Endpoint.resolve organization)
      fun address => view.Recently (·.HasEndpoint organization address) := by
  have recalled :
      Request.Ensures view.world (Session.Serving view earlier allowed)
        (Request.remembered (Endpoint.key organization)) fun cached =>
          ∀ address, cached = some address →
            view.Recently (·.HasEndpoint organization address) := by
    refine .remembered ?_
    intro session serving address visible
    exact (serving.witnessed.lookup visible).vouches_endpoint
  unfold Endpoint.resolve
  refine recalled.bind ?_
  intro cached recent
  cases cached with
  | some address => exact .pure (recent address rfl)
  | none =>
      change Request.Ensures _ _ (Endpoint.discover organization) _
      rw [Endpoint.discover_eq]
      refine .bind (Endpoint.ensures_find Session.Serving.logged organization) ?_
      intro address has
      refine .bind (.remember ?_) ?_
      · intro session serving
        exact serving.write (.endpoint has)
      intro _ _
      exact .pure (.inl has)

/-- A backend is reached only at a recent endpoint of the organization. -/
theorem ensures_backend
    (organization : String)
    (recentAllowed : ∀ address, view.Recently (·.HasEndpoint organization address) →
      allowed address) :
    Request.Ensures view.world (Session.Serving view earlier allowed)
      (Endpoint.backend organization) fun _ => True := by
  unfold Endpoint.backend
  refine .bind (ensures_resolve_endpoint organization) ?_
  intro address recent
  refine .bind (.demand ?_) ?_
  · intro session serving
    refine serving.log ?_
    rintro _ ⟨⟩
    exact recentAllowed address recent
  intro _ _
  exact .pure trivial

/-- A cluster is shown under a name that it had recently, or under its id while
no name is on record. -/
theorem ensures_resolve_clusterName
    (cluster : String) :
    Request.Ensures view.world (Session.Serving view earlier allowed)
      (ClusterName.resolve cluster) (view.ShowsName cluster) := by
  have recalled :
      Request.Ensures view.world (Session.Serving view earlier allowed)
        (Request.remembered (ClusterName.key cluster)) fun cached =>
          ∀ name, cached = some name → view.Recently (·.HasName cluster name) := by
    refine .remembered ?_
    intro session serving name visible
    exact (serving.witnessed.lookup visible).vouches_clusterName
  unfold ClusterName.resolve
  refine recalled.bind ?_
  intro cached recent
  cases cached with
  | some name => exact .pure (.inl (recent name rfl))
  | none =>
      change Request.Ensures _ _ (ClusterName.discover cluster) _
      have asked :
          Request.Ensures view.world (Session.Serving view earlier allowed)
            (Request.ask (.cluster cluster) (·.cluster cluster)) fun answer =>
              answer = view.world.cluster cluster :=
        .ask (fun session => Session.Serving.logged session _ (by simp)) rfl
      unfold ClusterName.discover
      refine asked.bind ?_
      intro answer answered
      match answer with
      | .ok (some record) =>
          have has : view.world.HasName cluster record.name := ⟨record, answered.symm, rfl⟩
          refine .bind (.remember ?_) ?_
          · intro session serving
            exact serving.write (.clusterName has)
          intro _ _
          exact .pure (.inl (.inl has))
      | .ok none =>
          refine .pure (.inr ⟨rfl, ?_⟩)
          rintro recorded ⟨record, found, _⟩
          rw [← answered] at found
          cases found
      | .error _ =>
          refine .pure (.inr ⟨rfl, ?_⟩)
          rintro recorded ⟨record, found, _⟩
          rw [← answered] at found
          cases found

theorem ensures_seriesName
    (series : Metrics.Series) :
    Request.Ensures view.world (Session.Serving view earlier allowed)
      (ClusterName.ofSeries series) (view.ShowsSeries series) := by
  unfold ClusterName.ofSeries ShowsSeries
  cases series.cluster? with
  | some cluster => exact ensures_resolve_clusterName cluster
  | none => exact .pure rfl

/-- Naming the rows of an alignment names the series in their order. -/
private theorem forall₂_zipWith_named
    {holds : Metrics.Series → String → Prop}
    {answered : List Metrics.Series}
    {names : List String}
    {rows : List (List String)}
    (named : List.Forall₂ holds answered names)
    (sameLength : rows.length = answered.length) :
    List.Forall₂ (fun series shown => holds series shown.name)
      answered (List.zipWith ChartSeries.mk names rows) := by
  induction named generalizing rows with
  | nil => exact .nil
  | cons first _ inductionHypothesis =>
      cases rows with
      | nil => simp at sameLength
      | cons row rows =>
          rw [List.zipWith_cons_cons]
          exact .cons first (inductionHypothesis (Nat.succ.inj sameLength))

theorem ensures_rangeChart
    (organization backend : String)
    (window : RangeWindow)
    (now : Calendar.Instant)
    (kind : ChartKind)
    (query : String)
    (percentage : Bool) :
    Request.Ensures view.world (Session.Serving view earlier allowed)
      (Dashboard.rangeChart organization backend window now kind query percentage)
      view.ShowsChart := by
  unfold Dashboard.rangeChart
  refine .bind (.demand fun session => Session.Serving.logged session _ (by simp)) ?_
  intro answered asked
  refine .bind (.mapM ensures_seriesName answered) ?_
  intro names named
  refine .pure ?_
  intro _ _
  refine ⟨backend, query, _, now, _, answered, asked, ?_⟩
  exact forall₂_zipWith_named named (Alignment.length_rows_ofSeries answered percentage)

theorem ensures_calendarChart
    (organization : String)
    (year : Int)
    (month : Nat)
    (now : Calendar.Instant)
    (kind : ChartKind) :
    Request.Ensures view.world (Session.Serving view earlier allowed)
      (Dashboard.calendarChart organization year month now kind) view.ShowsChart := by
  rw [Dashboard.calendarChart_eq]
  refine .bind (.ofExcept fun _ same => same) ?_
  intro month _
  refine .bind (.demandStored fun session => Session.Serving.logged session _ (by simp)) ?_
  intro alerts _
  refine .pure ?_
  intro window same
  cases same

theorem ensures_charts
    (organization chartType : String)
    (parameters : ChartParameters)
    (now : Calendar.Instant)
    (recentAllowed : ∀ address, view.Recently (·.HasEndpoint organization address) →
      allowed address) :
    Request.Ensures view.world (Session.Serving view earlier allowed)
      (Dashboard.charts organization chartType parameters now)
      fun charts => ∀ chart ∈ charts, view.ShowsChart chart := by
  have each (backend : String) (kind : ChartKind) :
      Request.Ensures view.world (Session.Serving view earlier allowed)
        (Dashboard.chart organization backend parameters now kind) view.ShowsChart := by
    unfold Dashboard.chart
    cases kind.shape with
    | range query percentage => exact ensures_rangeChart _ _ _ _ _ _ _
    | calendar => exact ensures_calendarChart _ _ _ _ _
  unfold Dashboard.charts
  refine .bind (.ofExcept fun _ same => same) ?_
  intro selection _
  refine .bind (Endpoint.ensures_tenant Session.Serving.logged organization) ?_
  intro _ _
  refine .bind (ensures_backend organization recentAllowed) ?_
  intro backend _
  exact .mapM_forall (each backend) selection.kinds

theorem ensures_clusters
    (organization : String) :
    Request.Ensures view.world (Session.Serving view earlier allowed)
      (Dashboard.clusters organization) fun clusters =>
        view.world.clustersOf organization = .ok clusters :=
  .demandStored fun session => Session.Serving.logged session _ (by simp)

theorem ensures_instantQuery
    (backend query : String) :
    Request.Ensures view.world (Session.Serving view earlier allowed)
      (Dashboard.instantQuery backend query) fun samples =>
        view.world.instantQuery backend query = .ok samples :=
  .demand fun session => Session.Serving.logged session _ (by simp)

theorem ensures_summaries
    (organization : String)
    (recentAllowed : ∀ address, view.Recently (·.HasEndpoint organization address) →
      allowed address) :
    Request.Ensures view.world (Session.Serving view earlier allowed)
      (Dashboard.summaries organization) fun _ => True := by
  unfold Dashboard.summaries
  refine .bind (ensures_backend organization recentAllowed) ?_
  intro backend _
  refine .bind (ensures_clusters organization) ?_
  intro clusters _
  refine .bind (ensures_instantQuery backend _) ?_
  intro memoryDisk _
  refine .bind (ensures_instantQuery backend _) ?_
  intro load _
  exact .pure trivial

theorem ensures_resources
    (organization : String)
    (recentAllowed : ∀ address, view.Recently (·.HasEndpoint organization address) →
      allowed address) :
    Request.Ensures view.world (Session.Serving view earlier allowed)
      (Dashboard.resources organization) fun _ => True := by
  unfold Dashboard.resources
  refine .bind (ensures_backend organization recentAllowed) ?_
  intro backend _
  refine .bind (ensures_clusters organization) ?_
  intro clusters _
  refine .bind (ensures_instantQuery backend _) ?_
  intro cores _
  refine .bind (ensures_instantQuery backend _) ?_
  intro memory _
  refine .bind (ensures_instantQuery backend _) ?_
  intro storage _
  exact .pure trivial

end Vantage

end FleetDashboard
