import Mathlib.Data.List.Count
import Mathlib.Data.List.Perm.Basic
import Mathlib.Order.Defs.LinearOrder

/-!
# Sorting that leaves ties alone

A list is brought into the order of a key, and the items of one key stay in the order in
which they were.  There is only one such list, so two ways of making it agree, whatever the
items with equal keys look like.
-/

namespace FleetDashboard

/-- The second list has the items of the first in the order of a key.  Among the items of
one key nothing has changed: none is lost or doubled, and their order is the same. -/
structure IsStablySorted
    [LE κ]
    [DecidableEq κ]
    (key : α → κ)
    (items sorted : List α) : Prop where
  ordered : sorted.Pairwise fun earlier later => key earlier ≤ key later
  groups : ∀ value, sorted.filter (key · = value) = items.filter (key · = value)

namespace IsStablySorted

variable
  [LE κ]
  [DecidableEq κ]
  {key : α → κ}
  {items sorted : List α}

/-- Every item is there as often as before. -/
theorem perm
    (stable : IsStablySorted key items sorted) :
    sorted.Perm items := by
  classical
  rw [List.perm_iff_count]
  intro item
  -- an item is counted within the group of its key
  have inGroup (whole : List α) :
      (whole.filter (key · = key item)).count item = whole.count item :=
    List.count_filter (by simp)
  rw [← inGroup sorted, stable.groups, inGroup]

/-- A list that is in order stays as it is. -/
theorem refl_of_ordered
    (ordered : items.Pairwise fun earlier later => key earlier ≤ key later) :
    IsStablySorted key items items :=
  ⟨ordered, fun _ => rfl⟩

/-- Sorting once more changes nothing. -/
theorem again
    (stable : IsStablySorted key items sorted) :
    IsStablySorted key sorted sorted :=
  refl_of_ordered stable.ordered

/-- Two parts are sorted one by one if the keys of the first do not exceed those of the
second. -/
theorem append
    {front frontSorted back backSorted : List α}
    (frontStable : IsStablySorted key front frontSorted)
    (backStable : IsStablySorted key back backSorted)
    (apart : ∀ earlier ∈ front, ∀ later ∈ back, key earlier ≤ key later) :
    IsStablySorted key (front ++ back) (frontSorted ++ backSorted) where
  ordered := by
    refine List.pairwise_append.mpr ⟨frontStable.ordered, backStable.ordered, ?_⟩
    intro earlier inFront later inBack
    exact apart earlier (frontStable.perm.mem_iff.mp inFront) later
      (backStable.perm.mem_iff.mp inBack)
  groups := by
    intro value
    rw [List.filter_append, List.filter_append, frontStable.groups, backStable.groups]

/-- What is sorted may be brought into another order first, as long as no group changes. -/
theorem of_groups
    {others : List α}
    (stable : IsStablySorted key others sorted)
    (same : ∀ value, others.filter (key · = value) = items.filter (key · = value)) :
    IsStablySorted key items sorted :=
  ⟨stable.ordered, fun value => (stable.groups value).trans (same value)⟩

section LinearOrder

variable [Std.IsLinearOrder κ]

/-- The order of the keys and the order within each group determine the list. -/
theorem unique
    {other : List α}
    (stable : IsStablySorted key items sorted)
    (stableToo : IsStablySorted key items other) :
    sorted = other := by
  have sameGroups (value : κ) :
      sorted.filter (key · = value) = other.filter (key · = value) :=
    (stable.groups value).trans (stableToo.groups value).symm
  have ordered := stable.ordered
  have orderedToo := stableToo.ordered
  have rearranged := stable.perm.trans stableToo.perm.symm
  clear stable stableToo
  induction sorted generalizing other with
  | nil => exact rearranged.nil_eq
  | cons first rest inductionHypothesis =>
      obtain ⟨leading, others, rfl⟩ : ∃ leading others, other = leading :: others :=
        List.exists_cons_of_ne_nil fun empty => by simp [empty] at rearranged
      obtain ⟨least, orderedRest⟩ := List.pairwise_cons.mp ordered
      obtain ⟨leastToo, orderedOthers⟩ := List.pairwise_cons.mp orderedToo
      -- both first items have the least key, and they are the first ones of its group
      have below : key first ≤ key leading := by
        rcases List.mem_cons.mp (rearranged.mem_iff.mpr List.mem_cons_self) with same | inRest
        · rw [same]
          exact Std.le_refl _
        · exact least _ inRest
      have above : key leading ≤ key first := by
        rcases List.mem_cons.mp (rearranged.mem_iff.mp List.mem_cons_self) with same | inOthers
        · rw [same]
          exact Std.le_refl _
        · exact leastToo _ inOthers
      have sameKey : key first = key leading := Std.le_antisymm below above
      have sameFirst : first = leading := by
        have group := sameGroups (key leading)
        rw [List.filter_cons_of_pos (by simpa using sameKey),
          List.filter_cons_of_pos (by simp)] at group
        exact (List.cons.inj group).1
      subst sameFirst
      refine congrArg (first :: ·) (inductionHypothesis ?_ orderedRest orderedOthers
        (List.perm_cons first |>.mp rearranged))
      intro value
      have group := sameGroups value
      by_cases same : key first = value
      · rw [List.filter_cons_of_pos (by simpa using same),
          List.filter_cons_of_pos (by simpa using same)] at group
        exact (List.cons.inj group).2
      · rwa [List.filter_cons_of_neg (by simpa using same),
          List.filter_cons_of_neg (by simpa using same)] at group

/-- Sorting by merging leaves ties alone. -/
theorem mergeSort
    [DecidableLE κ]
    (items : List α) :
    IsStablySorted key items (items.mergeSort fun left right => key left ≤ key right) := by
  have transitive (first second third : α)
      (firstLe : decide (key first ≤ key second) = true)
      (secondLe : decide (key second ≤ key third) = true) :
      decide (key first ≤ key third) = true :=
    decide_eq_true (Std.le_trans (of_decide_eq_true firstLe) (of_decide_eq_true secondLe))
  have total (left right : α) :
      (decide (key left ≤ key right) || decide (key right ≤ key left)) = true := by
    simpa using Std.le_total
  refine ⟨?_, ?_⟩
  · exact (List.pairwise_mergeSort transitive total items).imp of_decide_eq_true
  intro value
  -- the items of one key are in order as they stand, so they are found again in this order
  have tied : (items.filter (key · = value)).Pairwise
      fun left right => decide (key left ≤ key right) = true := by
    refine List.pairwise_of_forall_mem_list ?_
    intro left inLeft right inRight
    have leftKey : key left = value := by simpa using (List.mem_filter.mp inLeft).2
    have rightKey : key right = value := by simpa using (List.mem_filter.mp inRight).2
    rw [leftKey, rightKey]
    exact decide_eq_true (Std.le_refl value)
  have found := (List.sublist_mergeSort transitive total tied List.filter_sublist).filter
    (key · = value)
  simp only [List.filter_filter, Bool.and_self] at found
  refine (found.eq_of_length ?_).symm
  exact ((List.mergeSort_perm items _).filter _).length_eq.symm

end LinearOrder
end IsStablySorted
end FleetDashboard
