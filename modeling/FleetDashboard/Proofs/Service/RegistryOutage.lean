import FleetDashboard.Proofs.Service.ChartShape

/-!
# Outages of the cluster registry

Charts ask the registry of clusters for names alone.  While it is down they show the names
that are cached and the ids of all other clusters; nothing else about them changes.
-/

namespace FleetDashboard

open Metrics

/-- The world in which every call to the registry of clusters fails for some reason. -/
def World.withRegistryDown
    (world : World)
    (reason : Call → String) : World :=
  { world with
    clustersOf := fun organization => .error (reason (.clustersOf organization))
    cluster := fun cluster => .error (reason (.cluster cluster)) }

/-- The series without its name. -/
def ChartSeries.withoutName
    (series : ChartSeries) : ChartSeries :=
  { series with name := "" }

/-- The chart without the names of its series, unless it is a calendar. -/
def Chart.withoutSeriesNames
    (chart : Chart) : Chart :=
  match chart.window with
  | .range _ => { chart with series := chart.series.map ChartSeries.withoutName }
  | .calendar _ _ => chart

/-- Series without names can be told from the rows and the number of names. -/
theorem ChartSeries.map_withoutName_zipWith
    {names others : List String}
    (sameLength : names.length = others.length)
    (rows : List (List String)) :
    (List.zipWith mk names rows).map withoutName =
      (List.zipWith mk others rows).map withoutName := by
  have blank : ∀ names : List String, (List.zipWith mk names rows).map withoutName =
      List.zipWith mk (names.map fun _ => "") rows := by
    intro names
    rw [List.map_zipWith, List.zipWith_map_left]
    rfl
  rw [blank, blank, List.map_const', List.map_const', sameLength]

/-! ## Requests during an outage -/

section Outage

variable
  (world : World)
  (reason : Call → String)

/-- The other parties answer as ever. -/
theorem World.answer_withRegistryDown
    (backend : String)
    (call : Call)
    (otherParty : call.collaborator ≠ .clusterRegistry) :
    world.answer backend call = (world.withRegistryDown reason).answer backend call := by
  cases call with
  | clustersOf _ => exact absurd rfl otherParty
  | cluster _ => exact absurd rfl otherParty
  | _ => rfl

theorem World.lacks_withRegistryDown
    (cluster name : String) :
    ¬(world.withRegistryDown reason).HasName cluster name := by
  rintro ⟨record, recorded, _⟩
  cases recorded

/-- What does not ask the registry does the same as ever. -/
theorem Request.composesSearches_withRegistryDown
    (backend : String) :
    ComposesSearches backend (fun call => call.collaborator ≠ .clusterRegistry)
      fun _ request => ∀ session,
        request.run world session = request.run (world.withRegistryDown reason) session := by
  refine composesSearches_same ?_ backend (world.answer_withRegistryDown reason backend)
  rfl

/-- Nobody asks the registry on the way to a backend. -/
theorem Dashboard.run_opening_withRegistryDown
    (organization : String)
    (session : Session) :
    (opening organization).run world session =
      (opening organization).run (world.withRegistryDown reason) session := by
  have composes := Request.composesSearches_withRegistryDown world reason ""
  refine composes.bind _ _ (composes.tenant ?_) (fun _ => composes.connected ?_ ?_) session
  · simp [Call.collaborator]
  · simp [Call.collaborator]
  · refine composes.resolve ?_ (fun _ => rfl) fun _ _ => rfl
    rintro ⟨⟩ <;> simp [Call.isSearch, Call.collaborator]

/-- A question to another party is answered as ever, whatever is cached. -/
theorem Request.paired_question_withRegistryDown
    (backend : String)
    (call : Call)
    (otherParty : call.collaborator ≠ .clusterRegistry) :
    Paired world (world.withRegistryDown reason) (fun _ _ => True) Eq
      (question backend call) (question backend call) := by
  intro left right _
  rw [run_question, run_question, world.answer_withRegistryDown reason backend call otherParty]
  exact ⟨.refl _, trivial⟩

/-- A name can always be shown. -/
theorem ClusterName.paired_ofSeries
    (series : Series) :
    Request.Paired world (world.withRegistryDown reason) (fun _ _ => True) (fun _ _ => True)
      (ofSeries series) (ofSeries series) := by
  unfold ofSeries
  cases series.cluster? with
  | none => exact .pure trivial
  | some cluster =>
      intro left right _
      obtain ⟨name, after, runs, _⟩ := resolves world cluster left
      obtain ⟨other, otherAfter, otherRuns, _⟩ :=
        resolves (world.withRegistryDown reason) cluster right
      rw [runs, otherRuns]
      exact ⟨.ok trivial, trivial⟩

namespace Dashboard

theorem paired_rangeChart_withRegistryDown
    (organization backend : String)
    (window : RangeWindow)
    (now : Calendar.Instant)
    (kind : ChartKind)
    (query : String)
    (percentage : Bool) :
    Request.Paired world (world.withRegistryDown reason) (fun _ _ => True)
      (fun chart other => chart.withoutSeriesNames = other.withoutSeriesNames)
      (rangeChart organization backend window now kind query percentage)
      (rangeChart organization backend window now kind query percentage) := by
  have asks := Request.paired_question_withRegistryDown world reason backend
    (.rangeQuery query (now.secondsBefore window.duration.seconds) now
      window.interval.seconds) (by simp [Call.collaborator])
  refine asks.bind ?_
  rintro answered _ rfl
  have names := Request.Paired.mapM fun series (_ : series ∈ answered) =>
    ClusterName.paired_ofSeries world reason series
  refine names.bind ?_
  intro shown other same
  refine .pure ?_
  simp only [Chart.withoutSeriesNames,
    ChartSeries.map_withoutName_zipWith same.length_eq]

theorem paired_calendarChart_withRegistryDown
    (organization backend : String)
    (year : Int)
    (month : Nat)
    (now : Calendar.Instant)
    (kind : ChartKind) :
    Request.Paired world (world.withRegistryDown reason) (fun _ _ => True)
      (fun chart other => chart.withoutSeriesNames = other.withoutSeriesNames)
      (calendarChart organization year month now kind)
      (calendarChart organization year month now kind) := by
  rw [calendarChart_eq]
  refine .bind (.ofExcept (.refl _)) ?_
  rintro window _ rfl
  have asks := Request.paired_question_withRegistryDown world reason backend
    (.podRestarts organization window.start window.finish) (by simp [Call.collaborator])
  refine asks.bind ?_
  rintro alerts _ rfl
  exact .pure rfl

theorem paired_chart_withRegistryDown
    (organization backend : String)
    (parameters : ChartParameters)
    (now : Calendar.Instant)
    (kind : ChartKind) :
    Request.Paired world (world.withRegistryDown reason) (fun _ _ => True)
      (fun chart other => chart.withoutSeriesNames = other.withoutSeriesNames)
      (chart organization backend parameters now kind)
      (chart organization backend parameters now kind) := by
  unfold chart
  cases kind.shape with
  | range query percentage =>
      exact paired_rangeChart_withRegistryDown world reason organization backend _ now kind query
        percentage
  | calendar =>
      exact paired_calendarChart_withRegistryDown world reason organization backend _ _ now kind

/-- Charts differ in the names of their series at most. -/
theorem charts_agree_withRegistryDown
    (organization chartType : String)
    (parameters : ChartParameters)
    (now : Calendar.Instant)
    (session : Session) :
    ((charts organization chartType parameters now).run world session).1.map
        (List.map Chart.withoutSeriesNames) =
      ((charts organization chartType parameters now).run (world.withRegistryDown reason)
          session).1.map (List.map Chart.withoutSeriesNames) := by
  cases reads : ChartSelection.read chartType with
  | error unknown =>
      rw [charts_of_unread reads]
      rfl
  | ok selection =>
      rw [charts_of_read reads, Request.run_bind, Request.run_bind,
        ← run_opening_withRegistryDown world reason]
      rcases (opening organization).run world session with ⟨fault | backend, opened⟩
      · rfl
      -- From here on the sessions may differ in the names that they have cached.
      · have each := Request.Paired.mapM fun kind (_ : kind ∈ selection.kinds) =>
          paired_chart_withRegistryDown world reason organization backend parameters now kind
        obtain ⟨agree, _⟩ := each opened opened trivial
        rw [← Agree.iff_map_eq]
        refine agree.weaken ?_
        intro shown other same
        rw [← List.forall₂_eq_eq_eq, List.forall₂_map_left_iff, List.forall₂_map_right_iff]
        exact same

/-- No name is cached, replaced or dropped. -/
theorem leaves_charts_withRegistryDown
    (organization chartType : String)
    (parameters : ChartParameters)
    (now : Calendar.Instant)
    (cluster : String) :
    Request.LeadsIn (world.withRegistryDown reason)
      (Session.Leaves (ClusterName.key cluster)) _
      (charts organization chartType parameters now) := by
  have composes : ComposesFor organization (fun _ => True)
      (Request.LeadsIn (world.withRegistryDown reason)
        (Session.Leaves (ClusterName.key cluster))) :=
    { searches := Session.Leaves.composesSearches _ _
      clusterName := fun other => ClusterName.leaves_resolve fun name has =>
        absurd has (world.lacks_withRegistryDown reason other name)
      endpoint := Endpoint.leaves_resolve
        (Endpoint.key_ne_clusterNameKey organization cluster).symm _ }
  exact composes.charts (fun _ _ _ => trivial) chartType parameters now

end Dashboard
end Outage

namespace Dashboard

/-- While the registry of clusters is down, a request for charts fails with the same error
as ever or shows the same charts but for the names of series: a series is shown under the
name that is cached for its cluster, or else under the id.  Nothing that is cached of names
is touched. -/
theorem outage_degrades_names_only
    (world : World)
    (reason : Call → String)
    (session : Session)
    (organization chartType : String)
    (parameters : ChartParameters)
    (now : Calendar.Instant) :
    let request := charts organization chartType parameters now
    let down := world.withRegistryDown reason
    (request.run world session).1.map (List.map Chart.withoutSeriesNames) =
        (request.run down session).1.map (List.map Chart.withoutSeriesNames) ∧
      (∀ shown after, request.run down session = (.ok shown, after) →
        ∃ backend, (∃ made, after.calls = session.calls ++ made ∧ .connect backend ∈ made) ∧
          ∀ chart ∈ shown, ∀ query percentage, chart.kind.shape = .range query percentage →
            let window := RangeWindow.ofLabels parameters.duration parameters.interval
            ∃ answered,
              world.rangeQuery backend query (now.secondsBefore window.duration.seconds) now
                  window.interval.seconds = .ok answered ∧
                chart.series.map ChartSeries.name = answered.map fun series =>
                  match series.cluster? with
                  | some cluster => (session.lookup (ClusterName.key cluster)).getD cluster
                  | none => "") ∧
      ∀ cluster, (request.run down session).2.cache.held? (ClusterName.key cluster) =
        session.cache.held? (ClusterName.key cluster) := by
  dsimp only
  refine ⟨charts_agree_withRegistryDown world reason organization chartType parameters now
    session, ?_, ?_⟩
  · intro shown after shows
    obtain ⟨_, backend, _, reached, _, shaped⟩ := shaped_of_charts shows
    refine ⟨backend, reached, ?_⟩
    intro chart member query percentage draws
    obtain ⟨answered, asked, _, _, series⟩ := (shaped chart member).range query percentage draws
    refine ⟨answered, asked, ?_⟩
    rw [series, List.map_map]
    rfl
  · intro cluster
    have leaves := leaves_charts_withRegistryDown world reason organization chartType parameters
      now cluster session
    exact leaves.held

/-- A cluster that is not cached is shown under its name or, during an outage, its id. -/
theorem sample_outage_degrades_names :
    let request := charts "acme" "cpu" ⟨none, none, none, none⟩ ⟨0, 0⟩
    let down := World.sample.withRegistryDown fun _ => "down"
    let names : List Chart → List (List String) :=
      List.map fun chart => chart.series.map ChartSeries.name
    (request.run World.sample (Session.begin 10)).1.map names = .ok [["alpha"]] ∧
      (request.run down (Session.begin 10)).1.map names = .ok [["c1"]] ∧
      (request.run World.sample (Session.begin 10)).1.map (List.map Chart.withoutSeriesNames) =
        (request.run down (Session.begin 10)).1.map (List.map Chart.withoutSeriesNames) := by
  intro request down names
  have degrades := outage_degrades_names_only World.sample (fun _ => "down") (Session.begin 10)
    "acme" "cpu" ⟨none, none, none, none⟩ ⟨0, 0⟩
  exact ⟨by decide +kernel, by decide +kernel, degrades.1⟩

end Dashboard
end FleetDashboard
