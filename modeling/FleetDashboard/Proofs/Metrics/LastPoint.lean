import FleetDashboard.Metrics.Response
import Mathlib.Data.List.Forall2

/-!
# Samples as last points of series

One response is read as samples or as series.  Its samples are its series without those
that have no points, each cut down to its last point; where the entries of a response have
one point each, both readings have the same length.
-/

namespace FleetDashboard
namespace Metrics

namespace Series

/-- The series has a point. -/
def HasPoints
    (series : Series) : Prop :=
  series.points ≠ []

instance : DecidablePred HasPoints :=
  fun series => inferInstanceAs (Decidable (series.points ≠ []))

/-- The sample has the labels of the series and its last point. -/
def EndsWith
    (series : Series)
    (sample : Sample) : Prop :=
  series.labels = sample.labels ∧ ∃ earlier, series.points = earlier ++ [sample.point]

/-- The sample of the last point, if there is one. -/
def lastSample?
    (series : Series) : Option Sample :=
  series.points.getLast?.map fun point => ⟨series.labels, point⟩

theorem lastSample?_eq_some_iff
    {series : Series}
    {sample : Sample} :
    series.lastSample? = some sample ↔ series.EndsWith sample := by
  rw [lastSample?, Option.map_eq_some_iff]
  constructor
  · rintro ⟨point, last, rfl⟩
    exact ⟨rfl, List.getLast?_eq_some_iff.mp last⟩
  · rintro ⟨labels, split⟩
    refine ⟨sample.point, List.getLast?_eq_some_iff.mpr split, ?_⟩
    rw [labels]

theorem lastSample?_eq_none
    {series : Series}
    (bare : ¬series.HasPoints) :
    series.lastSample? = none := by
  rw [lastSample?, not_not.mp bare]
  rfl

theorem exists_endsWith
    {series : Series}
    (full : series.HasPoints) :
    ∃ sample, series.EndsWith sample := by
  refine ⟨⟨series.labels, series.points.getLast full⟩, rfl, series.points.dropLast, ?_⟩
  exact (List.dropLast_append_getLast full).symm

/-- The last samples of a list belong to the series with points, one by one. -/
theorem forall₂_lastSamples
    (entries : List Series) :
    List.Forall₂ (fun sample series => EndsWith series sample)
      (entries.filterMap lastSample?) (entries.filter HasPoints) := by
  induction entries with
  | nil => exact .nil
  | cons series entries inductionHypothesis =>
      by_cases full : series.HasPoints
      · obtain ⟨sample, ends⟩ := exists_endsWith full
        rw [List.filterMap_cons_some (lastSample?_eq_some_iff.mpr ends),
          List.filter_cons_of_pos (by simpa using full)]
        exact .cons ends inductionHypothesis
      · rw [List.filterMap_cons_none (lastSample?_eq_none full),
          List.filter_cons_of_neg (by simpa using full)]
        exact inductionHypothesis

theorem length_lastSamples
    (entries : List Series) :
    (entries.filterMap lastSample?).length = entries.countP HasPoints := by
  rw [List.countP_eq_length_filter]
  exact (forall₂_lastSamples entries).length_eq

/-- The place of a last sample is the number of series with points in front of its own. -/
theorem getElem?_lastSamples_iff
    {entries : List Series}
    {position : Nat}
    {sample : Sample} :
    (entries.filterMap lastSample?)[position]? = some sample ↔
      ∃ front series back, entries = front ++ series :: back ∧
        front.countP HasPoints = position ∧ series.EndsWith sample := by
  constructor
  · intro found
    obtain ⟨bound, same⟩ := List.getElem?_eq_some_iff.mp found
    have split := List.take_append_drop position (entries.filterMap lastSample?)
    rw [List.drop_eq_getElem_cons bound, same] at split
    obtain ⟨front, others, rfl, earlier, later⟩ := List.filterMap_eq_append_iff.mp split.symm
    obtain ⟨bare, series, back, rfl, skipped, last, _⟩ := List.filterMap_eq_cons_iff.mp later
    refine ⟨front ++ bare, series, back, (List.append_assoc _ _ _).symm, ?_,
      lastSample?_eq_some_iff.mp last⟩
    rw [← length_lastSamples, List.filterMap_append, earlier,
      List.filterMap_eq_nil_iff.mpr skipped, List.append_nil, List.length_take]
    exact Nat.min_eq_left (Nat.le_of_lt bound)
  · rintro ⟨front, series, back, rfl, rfl, ends⟩
    rw [List.filterMap_append, List.filterMap_cons_some (lastSample?_eq_some_iff.mpr ends),
      ← length_lastSamples, List.getElem?_append_right (Nat.le_refl _), Nat.sub_self]
    rfl

end Series

namespace QueryData

theorem samples_eq_lastSamples
    (data : QueryData) :
    data.samples = data.series.filterMap Series.lastSample? := by
  cases data with
  | vector samples =>
      rw [series, List.filterMap_map]
      exact List.filterMap_some.symm
  | matrix entries => rfl
  | scalar point => rfl
  | string point => rfl

/-- Entries that have one point each are series of exactly the samples. -/
theorem series_eq_map_samples
    {data : QueryData}
    (single : ∀ entries, data ≠ .matrix entries) :
    data.series = data.samples.map fun sample => ⟨sample.labels, [sample.point]⟩ := by
  cases data with
  | vector samples => rfl
  | matrix entries => exact absurd rfl (single entries)
  | scalar point => rfl
  | string point => rfl

/-- The samples of a response are the last points of those of its series that have points,
in their order and under their labels: a series with a last point is found among the
samples at the place that the series with points in front of it leave for it, and nothing
else is.  Unless the response is a matrix, both readings have the same length and every
series has exactly one point. -/
theorem samples_are_last_points
    (data : QueryData) :
    List.Forall₂ (fun sample series => series.EndsWith sample) data.samples
      (data.series.filter Series.HasPoints) ∧
    (∀ (position : Nat) (sample : Sample), data.samples[position]? = some sample ↔
      ∃ front series back, data.series = front ++ series :: back ∧
        front.countP Series.HasPoints = position ∧ series.EndsWith sample) ∧
    (∀ (position : Nat) (sample : Sample), data.samples[position]? = some sample →
      ∃ series, (data.series.filter Series.HasPoints)[position]? = some series ∧
        series.labels = sample.labels ∧ sample.point ∈ series.points) ∧
    ((∀ entries, data ≠ .matrix entries) →
      data.samples.length = data.series.length ∧
        ∀ series ∈ data.series, series.points.length = 1) := by
  have ends := Series.forall₂_lastSamples data.series
  rw [← samples_eq_lastSamples] at ends
  refine ⟨ends, ?_, ?_, ?_⟩
  · intro position sample
    rw [samples_eq_lastSamples]
    exact Series.getElem?_lastSamples_iff
  · intro position sample found
    obtain ⟨bound, rfl⟩ := List.getElem?_eq_some_iff.mp found
    have boundSeries := ends.length_eq ▸ bound
    obtain ⟨labels, earlier, points⟩ := ends.get bound boundSeries
    refine ⟨_, List.getElem?_eq_getElem boundSeries, labels, ?_⟩
    exact points ▸ List.mem_append_right earlier List.mem_cons_self
  · intro single
    rw [series_eq_map_samples single]
    refine ⟨List.length_map _ |>.symm, ?_⟩
    rintro series listed
    obtain ⟨sample, _, rfl⟩ := List.mem_map.mp listed
    rfl

/-- Of four series two have no points, so that the last one is second among the samples. -/
theorem sample_last_points :
    let entries : List Series :=
      [⟨[("a", "1")], []⟩, ⟨[("a", "2")], [⟨.ofNat 5, "x"⟩, ⟨.ofNat 3, "y"⟩]⟩, ⟨[], []⟩,
        ⟨[("a", "2")], [⟨.ofNat 4, "z"⟩]⟩]
    let data := matrix entries
    let single := string ⟨.ofNat 7, "up"⟩
    (∃ front series back, data.series = front ++ series :: back ∧
      front.countP Series.HasPoints = 1 ∧ series.EndsWith ⟨[("a", "2")], ⟨.ofNat 4, "z"⟩⟩) ∧
    (∃ series, (data.series.filter Series.HasPoints)[0]? = some series ∧
      series.labels = [("a", "2")] ∧ ⟨.ofNat 3, "y"⟩ ∈ series.points) ∧
    (∀ entries, single ≠ .matrix entries) ∧ single.samples.length = single.series.length ∧
      ∀ series ∈ single.series, series.points.length = 1 := by
  intro entries data single
  have apart : ∀ entries, single ≠ .matrix entries := nofun
  obtain ⟨_, places, points, _⟩ := samples_are_last_points data
  exact ⟨(places 1 _).mp rfl, points 0 ⟨[("a", "2")], ⟨.ofNat 3, "y"⟩⟩ rfl, apart,
    (samples_are_last_points single).2.2.2 apart⟩

end QueryData
end Metrics
end FleetDashboard
