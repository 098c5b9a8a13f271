import FleetDashboard.Proofs.Request.Paired
import FleetDashboard.Proofs.Service.Complaint

/-!
# Metric values do not steer requests

The text of a metric value ends up in a cell, a share or a sum, and nowhere else.
Two worlds that differ in such texts alone make every request fail alike or succeed
alike, with the same calls and the same cached texts.
-/

namespace FleetDashboard

open Metrics

/-! ## Without values -/

/-- The point without the text of its value. -/
def Metrics.Point.withoutValue
    (point : Point) : Point :=
  { point with value := "" }

/-- The sample without the text of its value. -/
def Metrics.Sample.withoutValue
    (sample : Sample) : Sample :=
  { sample with point := sample.point.withoutValue }

/-- The series without the texts of its values. -/
def Metrics.Series.withoutValues
    (series : Series) : Series :=
  { series with points := series.points.map Point.withoutValue }

/-- The world as far as it can be told without the texts of metric values. -/
def World.withoutValues
    (world : World) : World :=
  { world with
    instantQuery := fun backend query =>
      (world.instantQuery backend query).map (List.map Sample.withoutValue)
    rangeQuery := fun backend query start finish step =>
      (world.rangeQuery backend query start finish step).map (List.map Series.withoutValues) }

/-- The sample world, where the backend's only series has one point with this value. -/
def World.sampleReading
    (value : String) : World :=
  { World.sample with
    rangeQuery := fun _ _ _ _ _ =>
      .ok [⟨[(Labels.clusterName, "c1")], [⟨.zero false, value⟩]⟩] }

/-- The series of a chart without the contents of its cells. -/
def ChartSeries.withoutCells
    (series : ChartSeries) : ChartSeries :=
  { series with cells := series.cells.map fun _ => "" }

/-- The chart without the contents of its cells. -/
def Chart.withoutCells
    (chart : Chart) : Chart :=
  { chart with series := chart.series.map ChartSeries.withoutCells }

/-- The card without its shares. -/
def StackSummary.withoutShares
    (summary : StackSummary) : StackSummary :=
  { summary with cpu := "", memory := "", storage := "" }

/-! ## What is shown without values -/

namespace Alignment

theorem moments_withoutValues
    (series : List Series) :
    moments (series.map Series.withoutValues) = moments series := by
  rw [moments, moments, List.flatMap_map]
  congr 1
  funext entry
  exact List.map_map

/-- Rows without contents tell how many series and seconds there are. -/
theorem blankRows_ofSeries
    (series : List Series)
    (percentage : Bool) :
    (ofSeries series percentage).rows.map (List.map fun _ => "") =
      series.map fun _ => (moments series).eraseDups.map fun _ => "" := by
  rw [ofSeries, List.map_map]
  congr 1
  funext entry
  exact List.map_map

section Same

variable
  {left right : List Series}
  (same : left.map Series.withoutValues = right.map Series.withoutValues)

include same

theorem moments_eq : moments left = moments right := by
  rw [← moments_withoutValues left, same, moments_withoutValues]

theorem blankRows_eq
    (percentage : Bool) :
    (ofSeries left percentage).rows.map (List.map fun _ => "") =
      (ofSeries right percentage).rows.map (List.map fun _ => "") := by
  have sameLength : left.length = right.length := by
    simpa using congrArg List.length same
  simp only [blankRows_ofSeries, moments_eq same, List.map_const', sameLength]

end Same
end Alignment

namespace ChartSeries

theorem map_withoutCells_zipWith
    (names : List String)
    (rows : List (List String)) :
    (List.zipWith mk names rows).map withoutCells =
      List.zipWith mk names (rows.map (List.map fun _ => "")) := by
  rw [List.map_zipWith, List.zipWith_map_right]
  rfl

end ChartSeries

namespace StackSummary

theorem runningFirst_withoutShares
    (summaries : List StackSummary) :
    (runningFirst summaries).map withoutShares = runningFirst (summaries.map withoutShares) := by
  rw [runningFirst, runningFirst, List.map_append, List.filter_map, List.filter_map]
  rfl

/-- Cards without shares tell nothing of the samples. -/
theorem withoutShares_ofSamples
    (clusters : List Cluster)
    (memoryDisk cpu : List Sample) :
    (ofSamples clusters memoryDisk cpu).map withoutShares =
      (ofSamples clusters [] []).map withoutShares := by
  rw [ofSamples, ofSamples, runningFirst_withoutShares, runningFirst_withoutShares, List.map_map,
    List.map_map]
  rfl

end StackSummary

/-! ## Two worlds -/

section Worlds

variable {left right : World} (sameButValues : left.withoutValues = right.withoutValues)

include sameButValues

/-- Only the backends are heard to say something else. -/
theorem World.answer_eq
    (backend : String)
    {call : Call}
    (notQuery : call.collaborator ≠ .metricsBackend) :
    left.answer backend call = right.answer backend call := by
  have kept : ∀ world : World, world.answer backend call =
      world.withoutValues.answer backend call := by
    intro world
    cases call with
    | instantQuery query => exact absurd rfl notQuery
    | rangeQuery query start finish step => exact absurd rfl notQuery
    | _ => rfl
  rw [kept left, sameButValues, ← kept right]

/-- In both worlds the request does exactly the same. -/
theorem Request.sameIn_composes
    (backend : String) :
    ComposesSearches backend (fun call => call.collaborator ≠ .metricsBackend)
      fun _ request => ∀ session, request.run left session = request.run right session := by
  have sameNamespace := congrArg World.metricsNamespace sameButValues
  change left.metricsNamespace = right.metricsNamespace at sameNamespace
  exact composesSearches_same sameNamespace backend fun _ notQuery =>
    World.answer_eq sameButValues backend notQuery

theorem ClusterName.sameIn_resolve
    (cluster : String)
    (session : Session) :
    (resolve cluster).run left session = (resolve cluster).run right session := by
  have sameCluster := congrArg World.cluster sameButValues
  change left.cluster = right.cluster at sameCluster
  refine (Request.sameIn_composes sameButValues "").clusterName ?_ ?_ ?_ session
  · exact fun _ => rfl
  · exact fun _ _ => rfl
  · intro session
    rw [Request.run_ask, Request.run_ask, sameCluster]

theorem Endpoint.sameIn_backend
    (organization : String)
    (session : Session) :
    (backend organization).run left session = (backend organization).run right session := by
  have composes := Request.sameIn_composes sameButValues ""
  refine composes.connected (by simp [Call.collaborator]) ?_ session
  refine composes.resolve ?_ (fun _ => rfl) fun _ _ => rfl
  rintro ⟨⟩ <;> simp [Call.isSearch, Call.collaborator]

end Worlds

/-! ## Requests -/

/-- In both worlds the request leaves the same session behind and fails alike or
succeeds alike, up to what is shown of its value. -/
def Request.AgreesUpTo
    (shown : α → β)
    (left right : World)
    (request : Request α) : Prop :=
  ∀ session, (request.run left session).1.map shown = (request.run right session).1.map shown ∧
    (request.run left session).2 = (request.run right session).2

theorem Request.agreesUpTo_iff_paired
    {shown : α → β}
    {left right : World}
    {request : Request α} :
    request.AgreesUpTo shown left right ↔
      Paired left right Eq (fun first second => shown first = shown second) request request := by
  constructor
  · rintro agrees session _ rfl
    exact ⟨Agree.iff_map_eq.mpr (agrees session).1, (agrees session).2⟩
  · intro paired session
    obtain ⟨agree, same⟩ := paired session session rfl
    exact ⟨Agree.iff_map_eq.mp agree, same⟩

/-- A request that does exactly the same in both worlds is paired with itself. -/
theorem Request.paired_of_same
    {left right : World}
    {related : α → α → Prop}
    {request : Request α}
    (reflexive : ∀ value, related value value)
    (same : ∀ session, request.run left session = request.run right session) :
    Paired left right Eq related request request := by
  rintro session _ rfl
  rw [same]
  refine ⟨?_, rfl⟩
  cases (request.run right session).1 with
  | ok value => exact .ok (reflexive value)
  | error fault => exact .error

/-- The names of series do not hang on values. -/
theorem ClusterName.mapM_ofSeries_eq
    {left right : List Series}
    (same : left.map Series.withoutValues = right.map Series.withoutValues) :
    left.mapM ofSeries = right.mapM ofSeries := by
  have blind : ∀ series : List Series,
      (series.map Series.withoutValues).mapM ofSeries = series.mapM ofSeries := by
    intro series
    rw [List.mapM_map]
    rfl
  rw [← blind left, same, blind right]

namespace Dashboard

section Worlds

variable {left right : World} (sameButValues : left.withoutValues = right.withoutValues)

include sameButValues

theorem paired_instantQuery
    (backend query : String) :
    Request.Paired left right Eq
      (fun first second => first.map Sample.withoutValue = second.map Sample.withoutValue)
      (instantQuery backend query) (instantQuery backend query) := by
  have answers := congrArg (·.instantQuery backend query) sameButValues
  rintro session _ rfl
  exact ⟨Agree.iff_map_eq.mpr answers, rfl⟩

theorem paired_rangeChart
    (organization backend : String)
    (window : RangeWindow)
    (now : Calendar.Instant)
    (kind : ChartKind)
    (query : String)
    (percentage : Bool) :
    Request.Paired left right Eq
      (fun first second => first.withoutCells = second.withoutCells)
      (rangeChart organization backend window now kind query percentage)
      (rangeChart organization backend window now kind query percentage) := by
  have asks : Request.Paired left right Eq
      (fun first second => first.map Series.withoutValues = second.map Series.withoutValues)
      (Request.question backend (.rangeQuery query (now.secondsBefore window.duration.seconds) now
        window.interval.seconds))
      (Request.question backend (.rangeQuery query (now.secondsBefore window.duration.seconds) now
        window.interval.seconds)) := by
    have answers := congrArg (·.rangeQuery backend query
      (now.secondsBefore window.duration.seconds) now window.interval.seconds) sameButValues
    rintro session _ rfl
    exact ⟨Agree.iff_map_eq.mpr answers, rfl⟩
  refine asks.bind ?_
  intro first second same
  rw [ClusterName.mapM_ofSeries_eq same]
  have composes := Request.sameIn_composes sameButValues backend
  have names : Request.Paired left right Eq Eq (second.mapM ClusterName.ofSeries)
      (second.mapM ClusterName.ofSeries) := by
    refine Request.paired_of_same (fun _ => rfl) (composes.mapM ?_)
    intro series _
    exact composes.seriesName (ClusterName.sameIn_resolve sameButValues) series
  refine names.bind ?_
  rintro shown _ rfl
  refine .pure ?_
  have sameMoments := Alignment.moments_eq same
  have sameRows := Alignment.blankRows_eq same percentage
  simp only [Chart.withoutCells, ChartSeries.map_withoutCells_zipWith, Alignment.axis_ofSeries,
    sameMoments, sameRows]

theorem paired_chart
    (organization backend : String)
    (parameters : ChartParameters)
    (now : Calendar.Instant)
    (kind : ChartKind) :
    Request.Paired left right Eq
      (fun first second => first.withoutCells = second.withoutCells)
      (chart organization backend parameters now kind)
      (chart organization backend parameters now kind) := by
  unfold chart
  cases kind.shape with
  | range query percentage => exact paired_rangeChart sameButValues _ _ _ _ _ _ _
  | calendar =>
      have searches := Request.sameIn_composes sameButValues backend
      have composes : ComposesCharts backend _ _ :=
        { toComposes := searches.toComposes
          clusterName := ClusterName.sameIn_resolve sameButValues }
      refine Request.paired_of_same (fun _ => rfl) ?_
      exact composes.calendarChart (by simp [Call.collaborator]) (searches.ofExcept _) kind

/-- Charts differ in their cells at most. -/
theorem charts_agreesUpTo
    (organization chartType : String)
    (parameters : ChartParameters)
    (now : Calendar.Instant) :
    (charts organization chartType parameters now).AgreesUpTo (List.map Chart.withoutCells)
      left right := by
  rw [Request.agreesUpTo_iff_paired]
  have searches := Request.sameIn_composes sameButValues ""
  cases reads : ChartSelection.read chartType with
  | error unknown =>
      rw [charts_of_unread reads]
      exact Request.paired_of_same (fun _ => rfl) fun _ => rfl
  | ok selection =>
      rw [charts_of_read reads]
      have opens : Request.Paired left right Eq Eq (opening organization)
          (opening organization) := by
        refine Request.paired_of_same (fun _ => rfl) (searches.bind _ _ ?_ fun _ => ?_)
        · exact searches.tenant (by simp [Call.collaborator])
        · exact Endpoint.sameIn_backend sameButValues organization
      refine opens.bind ?_
      rintro backend _ rfl
      have each := Request.Paired.mapM fun kind (_ : kind ∈ selection.kinds) =>
        paired_chart sameButValues organization backend parameters now kind
      refine each.weaken ?_
      intro first second same
      rw [← List.forall₂_eq_eq_eq, List.forall₂_map_left_iff, List.forall₂_map_right_iff]
      exact same

theorem paired_backend
    (organization : String) :
    Request.Paired left right Eq Eq (Endpoint.backend organization)
      (Endpoint.backend organization) :=
  Request.paired_of_same (fun _ => rfl) (Endpoint.sameIn_backend sameButValues organization)

theorem paired_clusters
    (organization : String) :
    Request.Paired left right Eq Eq (clusters organization) (clusters organization) := by
  have composes := Request.sameIn_composes sameButValues ""
  refine Request.paired_of_same (fun _ => rfl) ?_
  exact composes.question (.clustersOf organization) (by simp [Call.collaborator])

/-- Cards differ in their shares at most. -/
theorem summaries_agreesUpTo
    (organization : String) :
    (summaries organization).AgreesUpTo (List.map StackSummary.withoutShares) left right := by
  rw [Request.agreesUpTo_iff_paired]
  refine (paired_backend sameButValues organization).bind ?_
  rintro backend _ rfl
  refine (paired_clusters sameButValues organization).bind ?_
  rintro clusters _ rfl
  refine (paired_instantQuery sameButValues backend memoryDiskQuery).bind ?_
  intro memoryDisk otherMemoryDisk _
  refine (paired_instantQuery sameButValues backend loadQuery).bind ?_
  intro load otherLoad _
  refine .pure ?_
  rw [StackSummary.withoutShares_ofSamples clusters memoryDisk,
    StackSummary.withoutShares_ofSamples clusters otherMemoryDisk]

/-- Totals differ in their sums at most. -/
theorem resources_agreesUpTo
    (organization : String) :
    (resources organization).AgreesUpTo ResourceTotals.stackCount left right := by
  rw [Request.agreesUpTo_iff_paired]
  refine (paired_backend sameButValues organization).bind ?_
  rintro backend _ rfl
  refine (paired_clusters sameButValues organization).bind ?_
  rintro clusters _ rfl
  refine (paired_instantQuery sameButValues backend coresQuery).bind ?_
  intro cores otherCores _
  refine (paired_instantQuery sameButValues backend memoryQuery).bind ?_
  intro memory otherMemory _
  refine (paired_instantQuery sameButValues backend storageQuery).bind ?_
  intro storage otherStorage _
  exact .pure rfl

end Worlds

/-- Worlds that differ in the texts of metric values alone get the same calls, the same
cached texts and, but for cells, shares and sums, the same answers.  What is wrong with
a value is never the reason of a failure, unless a collaborator gives that reason; those
of the platform do not. -/
theorem requests_blind_to_values
    {left right : World}
    (sameButValues : left.withoutValues = right.withoutValues)
    (organization : String) :
    (∀ chartType parameters now,
      (charts organization chartType parameters now).AgreesUpTo (List.map Chart.withoutCells)
          left right ∧
        (charts organization chartType parameters now).PassesComplaintsOn) ∧
    ((summaries organization).AgreesUpTo (List.map StackSummary.withoutShares) left right ∧
      (summaries organization).PassesComplaintsOn) ∧
    ((resources organization).AgreesUpTo ResourceTotals.stackCount left right ∧
      (resources organization).PassesComplaintsOn) ∧
    ∀ (platform : Platform) backend call, HasNoComplaint (platform.world.answer backend call) := by
  refine ⟨?_, ?_, ?_, Platform.hasNoComplaint_answer⟩
  · intro chartType parameters now
    exact ⟨charts_agreesUpTo sameButValues organization chartType parameters now,
      passesComplaintsOn_charts organization chartType parameters now⟩
  · exact ⟨summaries_agreesUpTo sameButValues organization,
      passesComplaintsOn_summaries organization⟩
  · exact ⟨resources_agreesUpTo sameButValues organization,
      passesComplaintsOn_resources organization⟩

/-- A number and a text that is none are shown as different cells of charts that are
otherwise the same. -/
theorem sample_blind_to_values :
    let left := World.sampleReading "0.5"
    let right := World.sampleReading "n/a"
    let request := charts "acme" "cpu" ⟨none, none, none, none⟩ ⟨0, 0⟩
    left.withoutValues = right.withoutValues ∧
      request.AgreesUpTo (List.map Chart.withoutCells) left right ∧
      (request.run left (Session.begin 10)).1.map (List.map Chart.series) =
        .ok [[⟨"alpha", ["50.000000"]⟩]] ∧
      (request.run right (Session.begin 10)).1.map (List.map Chart.series) =
        .ok [[⟨"alpha", [""]⟩]] := by
  intro left right request
  have sameButValues : left.withoutValues = right.withoutValues := rfl
  refine ⟨sameButValues, ?_, ?_, ?_⟩
  · exact ((requests_blind_to_values sameButValues "acme").1 "cpu" ⟨none, none, none, none⟩
      ⟨0, 0⟩).1
  · decide +kernel
  · decide +kernel

end Dashboard
end FleetDashboard
