import FleetDashboard.Proofs.Number.Rounding
import Mathlib.Data.Rat.Floor

/-!
# Order and whole numbers

Numbers are ordered by their exact values, between the two infinite ones; an undefined
number is comparable to none.  Rounding to a whole number keeps this order: halves go away
from zero on either side of it, and what leaves sixty-four bits is held at their bounds.
-/

namespace FleetDashboard
namespace Number
namespace Binary64

/-- One number is at most another one. -/
inductive IsAtMost : Binary64 → Binary64 → Prop
  | least
      {value : Binary64}
      (defined : value ≠ notNumber) :
      IsAtMost (infinite true) value
  | greatest
      {value : Binary64}
      (defined : value ≠ notNumber) :
      IsAtMost value (infinite false)
  | between
      {left right : Binary64}
      (leftFinite : left.isFinite = true)
      (rightFinite : right.isFinite = true)
      (le : left.toRat ≤ right.toRat) :
      IsAtMost left right

theorem isAtMost_iff
    {left right : Binary64} :
    left.IsAtMost right ↔
      (left ≠ notNumber ∧ right ≠ notNumber) ∧
        (left = infinite true ∨ right = infinite false ∨
          (left.isFinite = true ∧ right.isFinite = true) ∧ left.toRat ≤ right.toRat) := by
  have defined_of_isFinite
      {value : Binary64}
      (isFinite : value.isFinite = true) :
      value ≠ notNumber := by
    rintro rfl
    cases isFinite
  constructor
  · intro isAtMost
    cases isAtMost with
    | least defined => exact ⟨⟨nofun, defined⟩, .inl rfl⟩
    | greatest defined => exact ⟨⟨defined, nofun⟩, .inr (.inl rfl)⟩
    | between leftFinite rightFinite le =>
        exact ⟨⟨defined_of_isFinite leftFinite, defined_of_isFinite rightFinite⟩,
          .inr (.inr ⟨⟨leftFinite, rightFinite⟩, le⟩)⟩
  · rintro ⟨⟨leftDefined, rightDefined⟩, rfl | rfl | ⟨⟨leftFinite, rightFinite⟩, le⟩⟩
    · exact .least rightDefined
    · exact .greatest leftDefined
    · exact .between leftFinite rightFinite le

instance
    (left right : Binary64) :
    Decidable (left.IsAtMost right) :=
  decidable_of_iff _ isAtMost_iff.symm

/-- The whole number nearest to an exact value, halves away from zero. -/
def wholeNearest
    (exact : ℚ) : Int :=
  if exact < 0 then -⌊-exact + 1 / 2⌋ else ⌊exact + 1 / 2⌋

/-- Sixty-four bits hold a whole number, or the bound that it leaves. -/
def heldWithin
    (whole : Int) : Int :=
  max leastInteger (min greatestInteger whole)

theorem wholeNearest_of_nonneg
    {size : ℚ}
    (nonneg : 0 ≤ size) :
    wholeNearest size = ⌊size + 1 / 2⌋ := by
  rw [wholeNearest, if_neg (not_lt.mpr nonneg)]

theorem wholeNearest_neg_of_nonneg
    {size : ℚ}
    (nonneg : 0 ≤ size) :
    wholeNearest (-size) = -⌊size + 1 / 2⌋ := by
  rcases nonneg.lt_or_eq with above | none
  · rw [wholeNearest, if_pos (neg_neg_iff_pos.mpr above), neg_neg]
  · rw [← none]
    norm_num [wholeNearest]

theorem wholeNearest_mono
    {left right : ℚ}
    (le : left ≤ right) :
    wholeNearest left ≤ wholeNearest right := by
  have halfNonneg : (0 : ℚ) ≤ 1 / 2 := by norm_num
  rw [wholeNearest, wholeNearest]
  split_ifs with leftBelow rightBelow rightBelow
  · exact neg_le_neg (Int.floor_le_floor (by linarith))
  · have leftNonneg : 0 ≤ ⌊-left + 1 / 2⌋ := Int.floor_nonneg.mpr (by linarith)
    have rightNonneg : 0 ≤ ⌊right + 1 / 2⌋ := Int.floor_nonneg.mpr (by linarith)
    omega
  · exact absurd (le.trans_lt rightBelow) leftBelow
  · exact Int.floor_le_floor (by linarith)

theorem heldWithin_mono
    {left right : Int}
    (le : left ≤ right) :
    heldWithin left ≤ heldWithin right :=
  max_le_max le_rfl (min_le_min le_rfl le)

theorem heldWithin_bounds
    (whole : Int) :
    leastInteger ≤ heldWithin whole ∧ heldWithin whole ≤ greatestInteger :=
  ⟨le_max_left _ _, max_le (by decide) (min_le_left _ _)⟩

/-- Rounding a quotient with ties upward is taking the whole part above a half. -/
theorem halfUp_eq_floor
    {denominator : Nat}
    (positive : 0 < denominator)
    (numerator : Nat) :
    (halfUp numerator denominator : Int) = ⌊(numerator / denominator : ℚ) + 1 / 2⌋ := by
  have filled : (denominator : ℚ) ≠ 0 := by exact_mod_cast positive.ne'
  have quotient : (numerator / denominator : ℚ) + 1 / 2 =
      ((2 * numerator + denominator : Nat) : ℚ) / ((2 * denominator : Nat) : ℚ) := by
    push_cast
    field_simp
  rw [quotient, halfUp, Rat.floor_natCast_div_natCast]
  rfl

/-- The whole number of a finite number is the nearest one to its exact value, if sixty-four
bits hold it. -/
theorem roundToInteger_of_isFinite
    {value : Binary64}
    (isFinite : value.isFinite = true) :
    value.roundToInteger = heldWithin (wholeNearest value.toRat) := by
  obtain ⟨negative, significand, exponent, rfl⟩ := exists_finite_of_isFinite isFinite
  have size : ((significand * Nat.pow 2 exponent.toNat : Nat) : ℚ) /
      ((Nat.pow 2 (-exponent).toNat : Nat) : ℚ) = significand * 2 ^ exponent := by
    have shifted := cast_shifted significand 1 exponent
    rwa [Nat.one_mul, Nat.cast_one, div_one] at shifted
  have positive : 0 < Nat.pow 2 (-exponent).toNat := Nat.pow_pos Nat.two_pos
  have magnitude := halfUp_eq_floor positive (significand * Nat.pow 2 exponent.toNat)
  have nonneg : (0 : ℚ) ≤ significand * 2 ^ exponent := by positivity
  rw [size] at magnitude
  simp only [roundToInteger, magnitude]
  cases negative with
  | false =>
      have value : (finite false significand exponent).toRat = significand * 2 ^ exponent := by
        simp [toRat]
      rw [value, wholeNearest_of_nonneg nonneg]
      rfl
  | true =>
      have value : (finite true significand exponent).toRat = -(significand * 2 ^ exponent) := by
        simp [toRat]
      rw [value, wholeNearest_neg_of_nonneg nonneg]
      rfl

theorem roundToInteger_bounds
    (value : Binary64) :
    leastInteger ≤ value.roundToInteger ∧ value.roundToInteger ≤ greatestInteger := by
  cases value with
  | finite negative significand exponent =>
      rw [roundToInteger_of_isFinite rfl]
      exact heldWithin_bounds _
  | infinite negative => cases negative <;> decide
  | notNumber => decide

/-- Rounding to a whole number keeps the order of numbers. -/
theorem IsAtMost.roundToInteger_le
    {left right : Binary64}
    (isAtMost : left.IsAtMost right) :
    left.roundToInteger ≤ right.roundToInteger := by
  cases isAtMost with
  | least => exact (roundToInteger_bounds right).1
  | greatest => exact (roundToInteger_bounds left).2
  | between leftFinite rightFinite le =>
      rw [roundToInteger_of_isFinite leftFinite, roundToInteger_of_isFinite rightFinite]
      exact heldWithin_mono (wholeNearest_mono le)

end Binary64
end Number
end FleetDashboard
