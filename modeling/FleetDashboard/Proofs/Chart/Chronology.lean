import FleetDashboard.Proofs.Chart.Alignment
import FleetDashboard.Proofs.Number.Order
import FleetDashboard.Proofs.Text.Numeral

/-!
# Axes in the order of time

Aligned series share the seconds of their points in the order in which these are first met.
Rounding keeps the order of times, so this is the order of time when the first series is in
order and has a point at every second at which another one has a point.
-/

namespace FleetDashboard

open Metrics Number Text

namespace Metrics.Series

/-- No point comes before one at an earlier time, or at none. -/
def IsOrdered
    (series : Series) : Prop :=
  series.points.Pairwise fun earlier later => earlier.time.IsAtMost later.time

/-- Every second at which the other series has a point is one of this series. -/
def Covers
    (series other : Series) : Prop :=
  ∀ point ∈ other.points, ∃ known ∈ series.points, known.moment = point.moment

instance
    (series : Series) :
    Decidable series.IsOrdered :=
  inferInstanceAs (Decidable (List.Pairwise _ _))

instance
    (series other : Series) :
    Decidable (series.Covers other) :=
  inferInstanceAs (Decidable (∀ point ∈ other.points, _))

end Metrics.Series

namespace Alignment

/-- The seconds of one series do not fall behind when it is ordered. -/
theorem pairwise_moments_of_isOrdered
    {series : Series}
    (isOrdered : series.IsOrdered) :
    (moments [series]).Pairwise (· ≤ ·) := by
  rw [moments, List.flatMap_singleton, List.pairwise_map]
  exact isOrdered.imp Binary64.IsAtMost.roundToInteger_le

/-- Seconds that do not fall behind make an axis in the order of time. -/
theorem pairwise_axis_of_moments
    {series : List Series}
    (ordered : (moments series).Pairwise (· ≤ ·))
    (percentage : Bool) :
    (ofSeries series percentage).axis.Pairwise (· < ·) := by
  refine (pairwise_axis series percentage).imp_of_mem ?_
  intro earlier later earlierHeld laterHeld before
  rw [axis_ofSeries, List.mem_eraseDups] at earlierHeld laterHeld
  have le := List.pairwise_iff_getElem.mp ordered _ _
    (List.idxOf_lt_length_of_mem earlierHeld) (List.idxOf_lt_length_of_mem laterHeld) before
  rw [List.getElem_idxOf, List.getElem_idxOf] at le
  refine lt_of_le_of_ne le ?_
  rintro rfl
  exact Nat.lt_irrefl _ before

/-- Series that are covered add nothing to the axis of the first one. -/
theorem axis_of_covers
    {first : Series}
    {others : List Series}
    (covered : ∀ other ∈ others, first.Covers other)
    (percentage : Bool) :
    (ofSeries (first :: others) percentage).axis = (ofSeries [first] percentage).axis := by
  have known : ∀ moment ∈ moments others, moment ∈ moments [first] := by
    intro moment member
    obtain ⟨other, listed, met⟩ := List.mem_flatMap.mp member
    obtain ⟨point, held, rfl⟩ := List.mem_map.mp met
    obtain ⟨same, present, equal⟩ := covered other listed point held
    rw [← equal, moments, List.flatMap_singleton]
    exact List.mem_map_of_mem present
  have nothingNew : (moments others).removeAll (moments [first]) = [] := by
    rw [List.removeAll, List.filter_eq_nil_iff]
    intro moment member
    simpa using known moment member
  have split : moments (first :: others) = moments [first] ++ moments others := by
    simp [moments]
  rw [axis_ofSeries, axis_ofSeries, split, List.eraseDups_append, nothingNew, List.eraseDups_nil,
    List.append_nil]

/-- If the first series is in the order of time and covers the others, then the axis of all
of them, read off its texts, rises from second to second.  It lists the seconds of the first
series, each once and no other, and is the axis that this series has by itself. -/
theorem axis_chronological
    {first : Series}
    {others : List Series}
    (isOrdered : first.IsOrdered)
    (covered : ∀ other ∈ others, first.Covers other)
    (percentage : Bool) :
    let axis := (ofSeries (first :: others) percentage).axis
    axis.Pairwise (· < ·) ∧
      (∀ moment, moment ∈ axis ↔ ∃ point ∈ first.points, point.moment = moment) ∧
      axis = (ofSeries [first] percentage).axis ∧
      (axis.map intText).map (fun text => readInt 64 text.toList) = axis.map .ok := by
  intro axis
  have alone : axis = (ofSeries [first] percentage).axis := axis_of_covers covered percentage
  have members : ∀ moment, moment ∈ axis ↔ ∃ point ∈ first.points, point.moment = moment := by
    intro moment
    rw [alone, mem_axis_iff]
    simp
  refine ⟨?_, members, alone, ?_⟩
  · rw [alone]
    exact pairwise_axis_of_moments (pairwise_moments_of_isOrdered isOrdered) percentage
  · rw [List.map_map]
    refine List.map_congr_left fun moment member => ?_
    obtain ⟨point, _, rfl⟩ := (members moment).mp member
    obtain ⟨least, greatest⟩ := point.time.roundToInteger_bounds
    exact readInt_intText ⟨least, Int.lt_of_le_sub_one greatest⟩

/-- Times before zero, ties, an infinite time and one beyond sixty-four bits: both of the
latter fall on the greatest second. -/
theorem sample_axis_chronological :
    let first : Series :=
      ⟨[], [⟨.nearest true 5 2, "1"⟩, ⟨.nearest true 1 2, "2"⟩, ⟨.nearest false 1 2, "3"⟩,
        ⟨.nearest false 6 5, "4"⟩, ⟨.ofNat (10 ^ 19), "5"⟩, ⟨.infinite false, "6"⟩]⟩
    let other : Series := ⟨[], [⟨.ofNat 1, "7"⟩, ⟨.ofInt (-3), "8"⟩]⟩
    (first.IsOrdered ∧ first.Covers other) ∧
      (ofSeries [first, other] true).axis = [-3, -1, 1, 9223372036854775807] ∧
      (ofSeries [first, other] true).axis.Pairwise (· < ·) := by
  intro first other
  have isOrdered : first.IsOrdered := by decide +kernel
  have covers : first.Covers other := by decide +kernel
  have covered : ∀ entry ∈ [other], first.Covers entry := by
    simpa using covers
  obtain ⟨rising, _, alone, _⟩ := axis_chronological isOrdered covered true
  exact ⟨⟨isOrdered, covers⟩, by decide +kernel, rising⟩

end Alignment
end FleetDashboard
