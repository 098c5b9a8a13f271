import FleetDashboard.Proofs.Service.StageOrder
import FleetDashboard.Proofs.Service.Transparency

/-!
# The shape of charts

Within a request every cluster has one name, whatever has been cached in between.  So
the names, the rows and the series of a chart correspond one to one, and what a chart
shows can be told from the answer of the backend.
-/

namespace FleetDashboard

open Metrics

/-! ## Names within a request -/

namespace Session

/-- The name under which a session shows a cluster: the cached one, or else what a look-up
yields. -/
def nameOf
    (session : Session)
    (world : World)
    (cluster : String) : String :=
  (session.lookup (ClusterName.key cluster)).getD (ClusterName.shown world cluster)

/-- The name under which a session shows a series: that of its cluster, if it has one. -/
def seriesName
    (session : Session)
    (world : World)
    (series : Series) : String :=
  match series.cluster? with
  | some cluster => session.nameOf world cluster
  | none => ""

/-- The session shows all clusters under these names. -/
def NamesAs
    (world : World)
    (names : String → String)
    (session : Session) : Prop :=
  ∀ cluster, session.nameOf world cluster = names cluster

/-- A name that is found is the one that was shown before. -/
theorem nameOf_write
    {world : World}
    {session : Session}
    {cluster name : String}
    (absent : session.lookup (ClusterName.key cluster) = none)
    (has : world.HasName cluster name)
    (other : String) :
    (session.write (ClusterName.key cluster) name).nameOf world other =
      session.nameOf world other := by
  by_cases same : other = cluster
  · subst same
    rw [nameOf, nameOf, absent, lookup_write_self, ClusterName.shown_of_hasName has]
    split <;> rfl
  · have different : ClusterName.key other ≠ ClusterName.key cluster :=
      fun sameKey => same (ClusterName.key_injective sameKey)
    have unseen : (session.write (ClusterName.key cluster) name).lookup (ClusterName.key other) =
        session.lookup (ClusterName.key other) :=
      Cache.lookup_writeFor_of_ne _ _ _ different _ _
    rw [nameOf, unseen, nameOf]

end Session

/-- A cluster is given the name that the session shows, and all clusters keep theirs. -/
theorem ClusterName.ensures_nameOf
    (world : World)
    (names : String → String)
    (cluster : String) :
    Request.Ensures world (Session.NamesAs world names) (resolve cluster)
      fun name => names cluster = name := by
  intro session named
  obtain ⟨name, after, runs, way⟩ := resolves world cluster session
  rw [runs]
  have shows : names cluster = session.nameOf world cluster := (named cluster).symm
  cases way with
  | cached visible =>
      refine ⟨named, ?_⟩
      rintro _ ⟨⟩
      rw [shows, Session.nameOf, visible, Option.getD_some]
  | found absent has =>
      have stillAbsent : (session.log (.cluster cluster)).lookup (key cluster) = none := absent
      refine ⟨?_, ?_⟩
      · intro other
        exact (Session.nameOf_write stillAbsent has other).trans (named other)
      · rintro _ ⟨⟩
        rw [shows, Session.nameOf, absent, Option.getD_none, shown_of_hasName has]
  | missed absent lacks =>
      refine ⟨named, ?_⟩
      rintro _ ⟨⟩
      rw [shows, Session.nameOf, absent, Option.getD_none, shown_of_lacks lacks]

/-- Opening a request for charts leaves the names of clusters alone. -/
theorem Dashboard.leaves_opening
    (world : World)
    (organization cluster : String) :
    Request.LeadsIn world (Session.Leaves (ClusterName.key cluster)) String
      (opening organization) := by
  have searches := Session.Leaves.composesSearches world (ClusterName.key cluster) ""
  apply searches.bind _ _ (searches.tenant trivial)
  intro _
  exact searches.connected (fun _ => trivial)
    (Endpoint.leaves_resolve (Endpoint.key_ne_clusterNameKey organization cluster).symm world)

/-! ## Charts -/

theorem ChartKind.shape_eq_calendar_iff
    (kind : ChartKind) :
    kind.shape = .calendar ↔ kind = .podCalendar := by
  cases kind <;> simp [shape]

namespace Chart

/-- A chart of a range shows the series that its query is answered with at the backend,
one by one and in their order: each under the name that the session shows for it, with
its cells on the axis of all.  A calendar shows one series over thirty-one days. -/
structure Shaped
    (world : World)
    (session : Session)
    (backend : String)
    (parameters : ChartParameters)
    (now : Calendar.Instant)
    (chart : Chart) : Prop where
  range : ∀ query percentage, chart.kind.shape = .range query percentage →
    let window := RangeWindow.ofLabels parameters.duration parameters.interval
    ∃ answered,
      world.rangeQuery backend query (now.secondsBefore window.duration.seconds) now
          window.interval.seconds = .ok answered ∧
        chart.window = .range window ∧ chart.axis = (Alignment.moments answered).eraseDups ∧
        chart.series = answered.map fun series =>
          ⟨session.seriesName world series, chart.axis.map (Alignment.cell percentage series)⟩
  calendar : chart.kind.shape = .calendar →
    chart.window = .calendar (parameters.year.getD now.date.year)
        (parameters.month.getD now.date.month) ∧
      chart.axis.length = 31 ∧
      ∃ cells, chart.series = [⟨calendarSeries, cells⟩] ∧ cells.length = 31

namespace Shaped

variable
  {world : World}
  {session : Session}
  {backend : String}
  {parameters : ChartParameters}
  {now : Calendar.Instant}
  {chart : Chart}

/-- Every series has one cell for each second of the axis. -/
theorem length_cells
    (shaped : chart.Shaped world session backend parameters now) :
    ∀ series ∈ chart.series, series.cells.length = chart.axis.length := by
  intro series member
  cases draws : chart.kind.shape with
  | range query percentage =>
      obtain ⟨answered, _, _, _, shows⟩ := shaped.range query percentage draws
      rw [shows] at member
      obtain ⟨_, _, rfl⟩ := List.mem_map.mp member
      exact List.length_map _
  | calendar =>
      obtain ⟨_, days, cells, shows, sameLength⟩ := shaped.calendar draws
      rw [shows] at member
      obtain rfl := List.mem_singleton.mp member
      exact sameLength.trans days.symm

/-- Calendars show a month, and all other charts a span of time. -/
theorem window_iff
    (shaped : chart.Shaped world session backend parameters now) :
    (chart.kind = .podCalendar ↔ ∃ year month, chart.window = .calendar year month) ∧
      (chart.kind ≠ .podCalendar ↔ ∃ window, chart.window = .range window) := by
  rw [ne_eq, ← ChartKind.shape_eq_calendar_iff]
  cases draws : chart.kind.shape with
  | range query percentage =>
      obtain ⟨_, _, window, _⟩ := shaped.range query percentage draws
      simp [window]
  | calendar =>
      obtain ⟨window, _⟩ := shaped.calendar draws
      simp [window]

/-- In writing, a chart has the members of one kind of window and none of the other. -/
theorem exists_members
    (shaped : chart.Shaped world session backend parameters now) :
    ∃ members, chart.toJson = .record members ∧
      (∀ name ∈ ["duration", "interval"],
        name ∈ members.map Prod.fst ↔ chart.kind ≠ .podCalendar) ∧
      ∀ name ∈ ["year", "month"],
        name ∈ members.map Prod.fst ↔ chart.kind = .podCalendar := by
  obtain ⟨ofMonth, ofRange⟩ := shaped.window_iff
  refine ⟨_, rfl, ?_, ?_⟩
  · rw [ofRange]
    cases chart.window <;> simp [ChartWindow.members]
  · rw [ofMonth]
    cases chart.window <;> simp [ChartWindow.members]

end Shaped
end Chart

namespace Dashboard

section Ensures

variable
  {world : World}
  {session : Session}

/-- Names of series are given in the order of the series. -/
theorem ensures_names
    (answered : List Series) :
    Request.Ensures world (Session.NamesAs world (session.nameOf world))
      (answered.mapM ClusterName.ofSeries) fun names =>
        answered.map (session.seriesName world) = names := by
  have each : ∀ series : Series,
      Request.Ensures world (Session.NamesAs world (session.nameOf world))
        (ClusterName.ofSeries series) fun name => session.seriesName world series = name := by
    intro series
    unfold ClusterName.ofSeries Session.seriesName
    cases series.cluster? with
    | some cluster => exact ClusterName.ensures_nameOf world _ cluster
    | none => exact .pure rfl
  refine (Request.Ensures.mapM each answered).weaken ?_
  intro names named
  rw [← List.forall₂_eq_eq_eq, List.forall₂_map_left_iff]
  exact named

/-- A chart of a range has one series for each that is answered. -/
theorem ensures_rangeChart
    (organization backend : String)
    (parameters : ChartParameters)
    (now : Calendar.Instant)
    {kind : ChartKind}
    {query : String}
    {percentage : Bool}
    (draws : kind.shape = .range query percentage) :
    Request.Ensures world (Session.NamesAs world (session.nameOf world))
      (rangeChart organization backend
        (RangeWindow.ofLabels parameters.duration parameters.interval) now kind query percentage)
      fun chart => chart.Shaped world session backend parameters now ∧ chart.kind = kind := by
  unfold rangeChart
  refine .bind (.demand fun _ named => named) ?_
  intro answered asked
  refine .bind (ensures_names answered) ?_
  rintro _ rfl
  refine .pure ⟨⟨?_, ?_⟩, rfl⟩
  · intro otherQuery otherPercentage drawsToo
    cases draws.symm.trans drawsToo
    refine ⟨answered, asked, rfl, rfl, ?_⟩
    rw [Alignment.ofSeries, List.zipWith_map, List.zipWith_self]
  · intro drawsMonth
    cases draws.symm.trans drawsMonth

/-- A calendar has one series, whatever the alerts. -/
theorem ensures_calendarChart
    (organization backend : String)
    (parameters : ChartParameters)
    (now : Calendar.Instant)
    {kind : ChartKind}
    (draws : kind.shape = .calendar) :
    Request.Ensures world (Session.NamesAs world (session.nameOf world))
      (calendarChart organization (parameters.year.getD now.date.year)
        (parameters.month.getD now.date.month) now kind)
      fun chart => chart.Shaped world session backend parameters now ∧ chart.kind = kind := by
  rw [calendarChart_eq]
  refine .bind (.ofExcept fun _ same => same) ?_
  intro window _
  refine .bind (.demandStored fun _ named => named) ?_
  intro alerts _
  refine .pure ⟨⟨?_, ?_⟩, rfl⟩
  · intro query percentage drawsRange
    cases draws.symm.trans drawsRange
  · intro _
    have axis :=
      MonthHistogram.length_axis_ofWindow window (alerts.map Alert.createdAt) now
    refine ⟨rfl, axis, _, rfl, ?_⟩
    rw [List.length_map, MonthHistogram.length_counts_ofWindow]

/-- The charts of several kinds are made one after the other. -/
theorem ensures_kinds
    (organization backend : String)
    (parameters : ChartParameters)
    (now : Calendar.Instant)
    (kinds : List ChartKind) :
    Request.Ensures world (Session.NamesAs world (session.nameOf world))
      (kinds.mapM (chart organization backend parameters now)) fun shown =>
        shown.map Chart.kind = kinds ∧
          ∀ chart ∈ shown, chart.Shaped world session backend parameters now := by
  have each : ∀ kind, Request.Ensures world (Session.NamesAs world (session.nameOf world))
      (chart organization backend parameters now kind) fun chart =>
        chart.Shaped world session backend parameters now ∧ chart.kind = kind := by
    intro kind
    unfold chart
    split
    next query percentage draws => exact ensures_rangeChart _ _ _ _ draws
    next draws => exact ensures_calendarChart _ _ _ _ draws
  refine (Request.Ensures.mapM each kinds).weaken ?_
  intro shown fits
  obtain ⟨shaped, sameKinds⟩ := (List.forall₂_and_left shown kinds).mp fits.flip
  rw [← List.forall₂_map_left_iff, List.forall₂_eq_eq_eq] at sameKinds
  exact ⟨sameKinds, shaped⟩

end Ensures

/-- Charts that are shown are those of the selected kinds, and they are shaped by what the
backend answers that has been reached. -/
theorem shaped_of_charts
    {world : World}
    {session after : Session}
    {organization chartType : String}
    {parameters : ChartParameters}
    {now : Calendar.Instant}
    {shown : List Chart}
    (shows : (charts organization chartType parameters now).run world session =
      (.ok shown, after)) :
    ∃ selection backend, ChartSelection.read chartType = .ok selection ∧
      (∃ made, after.calls = session.calls ++ made ∧ .connect backend ∈ made) ∧
      shown.map Chart.kind = selection.kinds ∧
      ∀ chart ∈ shown, chart.Shaped world session backend parameters now := by
  cases reads : ChartSelection.read chartType with
  | error unknown =>
      rw [charts_of_unread reads] at shows
      cases shows
  | ok selection =>
      rw [charts_of_read reads, Request.run_bind_eq_ok_iff] at shows
      obtain ⟨backend, opened, opens, shows⟩ := shows
      -- The names of the first session are the ones that all charts show.
      have named : opened.NamesAs world (session.nameOf world) := by
        intro cluster
        have leaves := leaves_opening world organization cluster session
        rw [opens] at leaves
        rw [Session.nameOf, Session.nameOf, Session.lookup, leaves.lookup, leaves.clock,
          Session.lookup]
      obtain ⟨_, shaped⟩ :=
        ensures_kinds organization backend parameters now selection.kinds opened named
      have opening := Request.Opens.opening world organization fun _ => True
      obtain ⟨_, made, calls, reached⟩ := opening.reaches opens
      have composes : ComposesDashboard _ (Request.Leads (Session.Extends fun _ => True)) :=
        Session.Extends.composesDashboard (fun _ _ => trivial) fun _ => trivial
      have asks : Request.Leads (Session.Extends fun _ => True) _
          (selection.kinds.mapM (chart organization backend parameters now)) :=
        (composes.searches backend).mapM fun kind _ =>
          composes.chart (fun _ _ => trivial) organization backend parameters now kind
      obtain ⟨more, moreCalls, _⟩ := asks.of_run shows
      refine ⟨selection, backend, rfl, ⟨made ++ more, ?_, ?_⟩, ?_⟩
      · rw [moreCalls, calls, List.append_assoc]
      · exact List.mem_append_left more reached
      · exact shaped shown (by rw [shows])

/-- Charts that are shown are of the selected kinds, in their order.  Each has the window
of its kind and as many cells in every series as its axis has seconds, and its series are
those of the backend's answer or the one of the calendar. -/
theorem charts_well_shaped
    {world : World}
    {session after : Session}
    {organization chartType : String}
    {parameters : ChartParameters}
    {now : Calendar.Instant}
    {shown : List Chart}
    (shows : (charts organization chartType parameters now).run world session =
      (.ok shown, after)) :
    ∃ selection backend, ChartSelection.read chartType = .ok selection ∧
      (∃ made, after.calls = session.calls ++ made ∧ .connect backend ∈ made) ∧
      shown.map Chart.kind = selection.kinds ∧
      ∀ chart ∈ shown,
        chart.Shaped world session backend parameters now ∧
        (∀ series ∈ chart.series, series.cells.length = chart.axis.length) ∧
        (chart.kind = .podCalendar ↔ ∃ year month, chart.window = .calendar year month) ∧
        (chart.kind ≠ .podCalendar ↔ ∃ window, chart.window = .range window) ∧
        ∃ members, chart.toJson = .record members ∧
          (∀ name ∈ ["duration", "interval"],
            name ∈ members.map Prod.fst ↔ chart.kind ≠ .podCalendar) ∧
          ∀ name ∈ ["year", "month"],
            name ∈ members.map Prod.fst ↔ chart.kind = .podCalendar := by
  obtain ⟨selection, backend, reads, reached, kinds, shaped⟩ := shaped_of_charts shows
  refine ⟨selection, backend, reads, reached, kinds, ?_⟩
  intro chart member
  have fits := shaped chart member
  exact ⟨fits, fits.length_cells, fits.window_iff.1, fits.window_iff.2, fits.exists_members⟩

/-- All charts are shown where the backend answers two series, the second one with a gap
and of a cluster that is not on record. -/
theorem sample_charts_well_shaped :
    let answer := [
      ⟨[(Labels.clusterName, "c1")], [⟨.ofNat 60, "0.5"⟩, ⟨.ofNat 120, "0.25"⟩]⟩,
      ⟨[(Labels.clusterName, "c2")], [⟨.ofNat 120, "2"⟩]⟩]
    let world := { World.sample with rangeQuery := fun _ _ _ _ _ => .ok answer }
    let request := charts "acme" "all" ⟨none, none, none, none⟩ ⟨180, 0⟩
    let sizes : List Chart → List (Nat × Nat) :=
      List.map fun chart => (chart.axis.length, chart.series.length)
    ∃ shown after, request.run world (Session.begin 10) = (.ok shown, after) ∧
      shown.map Chart.kind = ChartKind.all ∧
      sizes shown = [(2, 2), (2, 2), (2, 2), (2, 2), (31, 1)] ∧
      shown.head?.map Chart.series = some [
        ⟨"alpha", ["50.000000", "25.000000"]⟩, ⟨"c2", ["", "200.000000"]⟩] ∧
      ∀ chart ∈ shown, ∀ series ∈ chart.series, series.cells.length = chart.axis.length := by
  intro answer world request sizes
  have sized : (request.run world (Session.begin 10)).1.map sizes =
      .ok [(2, 2), (2, 2), (2, 2), (2, 2), (31, 1)] := by decide +kernel
  have first : ((request.run world (Session.begin 10)).1.map fun shown =>
      shown.head?.map Chart.series) = .ok (some [
        ⟨"alpha", ["50.000000", "25.000000"]⟩, ⟨"c2", ["", "200.000000"]⟩]) := by decide +kernel
  rcases runs : request.run world (Session.begin 10) with ⟨fault | shown, after⟩
  · rw [runs] at sized
    cases sized
  · rw [runs] at sized first
    obtain ⟨selection, backend, reads, _, kinds, fits⟩ := charts_well_shaped runs
    have readsAll : ChartSelection.read "all" = .ok .all := by decide
    cases readsAll.symm.trans reads
    exact ⟨shown, after, rfl, kinds, Except.ok.inj sized, Except.ok.inj first,
      fun chart member => (fits chart member).2.1⟩

end Dashboard

end FleetDashboard
