import FleetDashboard.Number.Binary64
import Mathlib.Algebra.Order.Field.Power
import Mathlib.Data.Rat.Cast.Order
import Mathlib.Tactic.FieldSimp
import Mathlib.Tactic.Linarith
import Mathlib.Tactic.NormNum
import Mathlib.Tactic.Positivity
import Mathlib.Tactic.Ring

/-!
# Where rounding jumps

A quotient is rounded to a significand of fifty-three binary digits.  Between two
neighbouring significands there is one boundary, at which the even one wins, and whatever
lies below it is rounded to the lower neighbour or to less, and whatever lies beyond it
to the upper neighbour or to more.  The boundary above the largest finite number is where
numbers become infinite.  So much is said of quotients and of their rounding as rational
numbers; the products, quotients and differences of numbers are exact results that have
been rounded once.
-/

namespace FleetDashboard
namespace Number

/-! ## Rounding to whole numbers -/

/-- A quotient is rounded to a natural number or to less exactly when it does not lie
beyond the half above that; on the half itself the even neighbour wins. -/
theorem halfEven_le_iff
    {denominator : Nat}
    (positive : 0 < denominator)
    (numerator bound : Nat) :
    halfEven numerator denominator ≤ bound ↔
      2 * numerator < (2 * bound + 1) * denominator ∨
        2 * numerator = (2 * bound + 1) * denominator ∧ bound % 2 = 0 := by
  have split := Nat.div_add_mod numerator denominator
  have small := Nat.mod_lt numerator positive
  simp only [halfEven]
  generalize numerator / denominator = quotient at split ⊢
  generalize numerator % denominator = remainder at split small ⊢
  subst split
  rcases Nat.lt_trichotomy bound quotient with below | rfl | above
  · have far : (2 * bound + 2) * denominator ≤ 2 * (denominator * quotient) := by
      calc (2 * bound + 2) * denominator = denominator * (2 * (bound + 1)) := by ring
        _ ≤ denominator * (2 * quotient) := Nat.mul_le_mul_left _ (by omega)
        _ = 2 * (denominator * quotient) := by ring
    have expand : (2 * bound + 2) * denominator = (2 * bound + 1) * denominator + denominator := by
      ring
    split_ifs <;> omega
  · have expand : (2 * bound + 1) * denominator = 2 * (denominator * bound) + denominator := by ring
    split_ifs <;> omega
  · have near : 2 * (denominator * quotient) + 2 * denominator ≤ 2 * bound * denominator := by
      calc 2 * (denominator * quotient) + 2 * denominator = 2 * (quotient + 1) * denominator := by
            ring
        _ ≤ 2 * bound * denominator := Nat.mul_le_mul_right _ (by omega)
    have expand : (2 * bound + 1) * denominator = 2 * bound * denominator + denominator := by ring
    split_ifs <;> omega

namespace Binary64

/-! ## Powers of two -/

theorem two_mul_zpow_le
    {exponent greater : Int}
    (smaller : exponent < greater) :
    2 * (2 : ℚ) ^ exponent ≤ 2 ^ greater := by
  rw [← zpow_one_add₀ two_ne_zero]
  exact zpow_le_zpow_right₀ one_le_two (by omega)

/-- A quotient whose terms carry the positive and the negative part of an exponent. -/
theorem cast_shifted
    (numerator denominator : Nat)
    (exponent : Int) :
    ((numerator * Nat.pow 2 exponent.toNat : Nat) : ℚ) /
        ((denominator * Nat.pow 2 (-exponent).toNat : Nat) : ℚ) =
      numerator / denominator * 2 ^ exponent := by
  have power : (2 : ℚ) ^ exponent.toNat / 2 ^ (-exponent).toNat = 2 ^ exponent := by
    rw [← zpow_natCast, ← zpow_natCast, ← zpow_sub₀ two_ne_zero]
    congr 1
    omega
  rw [Nat.pow_eq, Nat.pow_eq]
  push_cast
  rw [mul_div_mul_comm, power]

/-- The comparison of the shifted terms compares the quotient with the power of two. -/
theorem shifted_le_iff
    {denominator : Nat}
    (positive : 0 < denominator)
    (numerator : Nat)
    (exponent : Int) :
    denominator * Nat.pow 2 exponent.toNat ≤ numerator * Nat.pow 2 (-exponent).toNat ↔
      (2 : ℚ) ^ exponent ≤ numerator / denominator := by
  have shifted := cast_shifted numerator denominator (-exponent)
  rw [neg_neg] at shifted
  have termPositive : 0 < denominator * Nat.pow 2 exponent.toNat :=
    Nat.mul_pos positive (Nat.pow_pos Nat.two_pos)
  rw [← Nat.cast_le (α := ℚ), ← one_le_div (Nat.cast_pos.mpr termPositive), shifted, zpow_neg,
    ← div_eq_mul_inv, one_le_div (by positivity)]

/-- A positive number lies between the powers of two of its binary length. -/
theorem pow_log2_bounds
    {number : Nat}
    (positive : 0 < number) :
    (2 : ℚ) ^ number.log2 ≤ number ∧ (number : ℚ) < 2 ^ (number.log2 + 1) := by
  constructor
  · exact_mod_cast Nat.log2_self_le positive.ne'
  · exact_mod_cast Nat.lt_log2_self

/-- The difference of the binary lengths is off by one at most. -/
theorem zpow_log2_sub_bounds
    {numerator denominator : Nat}
    (numeratorPositive : 0 < numerator)
    (denominatorPositive : 0 < denominator) :
    (2 : ℚ) ^ ((numerator.log2 : Int) - denominator.log2 - 1) ≤ numerator / denominator ∧
      (numerator / denominator : ℚ) < 2 ^ ((numerator.log2 : Int) - denominator.log2 + 1) := by
  have positive : (0 : ℚ) < denominator := Nat.cast_pos.mpr denominatorPositive
  obtain ⟨numeratorLow, numeratorHigh⟩ := pow_log2_bounds numeratorPositive
  obtain ⟨denominatorLow, denominatorHigh⟩ := pow_log2_bounds denominatorPositive
  rw [le_div_iff₀ positive, div_lt_iff₀ positive]
  constructor
  · calc (2 : ℚ) ^ ((numerator.log2 : Int) - denominator.log2 - 1) * denominator
        ≤ 2 ^ ((numerator.log2 : Int) - denominator.log2 - 1) * 2 ^ (denominator.log2 + 1) := by
          gcongr
      _ = 2 ^ numerator.log2 := by
          rw [← zpow_natCast, ← zpow_natCast, ← zpow_add₀ two_ne_zero]
          congr 1
          push_cast
          ring
      _ ≤ numerator := numeratorLow
  · calc (numerator : ℚ) < 2 ^ (numerator.log2 + 1) := numeratorHigh
      _ = 2 ^ ((numerator.log2 : Int) - denominator.log2 + 1) * 2 ^ denominator.log2 := by
          rw [← zpow_natCast, ← zpow_natCast, ← zpow_add₀ two_ne_zero]
          congr 1
          push_cast
          ring
      _ ≤ 2 ^ ((numerator.log2 : Int) - denominator.log2 + 1) * denominator := by
          gcongr

/-- The exponent of the leading binary digit is that of the quotient. -/
theorem leadingExponent_spec
    {numerator denominator : Nat}
    (numeratorPositive : 0 < numerator)
    (denominatorPositive : 0 < denominator) :
    (2 : ℚ) ^ leadingExponent numerator denominator ≤ numerator / denominator ∧
      (numerator / denominator : ℚ) < 2 ^ (leadingExponent numerator denominator + 1) := by
  obtain ⟨low, high⟩ := zpow_log2_sub_bounds numeratorPositive denominatorPositive
  simp only [leadingExponent]
  -- one comparison tells which of the two candidates it is
  split_ifs with reached
  · exact ⟨(shifted_le_iff denominatorPositive _ _).mp reached, high⟩
  · rw [shifted_le_iff denominatorPositive, not_le] at reached
    exact ⟨low, by rwa [sub_add_cancel]⟩

/-! ## Rounding to fifty-three digits -/

/-- The significand of fifty-three binary digits to which a quotient is rounded. -/
def roundedSignificand
    (numerator denominator : Nat) : Nat :=
  let unit := unitExponent numerator denominator
  halfEven (numerator * Nat.pow 2 (-unit).toNat) (denominator * Nat.pow 2 unit.toNat)

/-- A quotient rounded to fifty-three binary digits, whatever its size. -/
def roundedQuotient
    (numerator denominator : Nat) : ℚ :=
  roundedSignificand numerator denominator * 2 ^ unitExponent numerator denominator

/-- The quotient does not lie beyond the boundary above a significand in units of a power
of two; on the boundary itself the even significand is kept. -/
def RoundsDown
    (quotient : ℚ)
    (significand : Nat)
    (unit : Int) : Prop :=
  2 * quotient < (2 * significand + 1) * 2 ^ unit ∨
    2 * quotient = (2 * significand + 1) * 2 ^ unit ∧ significand % 2 = 0

/-- In its own unit a quotient is rounded to a significand or to less exactly when it does
not lie beyond the boundary above that. -/
theorem roundedSignificand_le_iff
    {denominator : Nat}
    (positive : 0 < denominator)
    (numerator significand : Nat) :
    roundedSignificand numerator denominator ≤ significand ↔
      RoundsDown (numerator / denominator) significand (unitExponent numerator denominator) := by
  rw [roundedSignificand]
  generalize unitExponent numerator denominator = unit
  have termPositive : 0 < denominator * Nat.pow 2 unit.toNat :=
    Nat.mul_pos positive (Nat.pow_pos Nat.two_pos)
  have shifted := cast_shifted numerator denominator (-unit)
  rw [neg_neg] at shifted
  rw [halfEven_le_iff termPositive, RoundsDown]
  generalize numerator * Nat.pow 2 (-unit).toNat = shiftedNumerator at shifted ⊢
  generalize denominator * Nat.pow 2 unit.toNat = shiftedDenominator at shifted termPositive ⊢
  have denominatorPositive : (0 : ℚ) < shiftedDenominator := Nat.cast_pos.mpr termPositive
  have unitPositive : (0 : ℚ) < 2 ^ unit := by positivity
  have cross : (shiftedNumerator : ℚ) * 2 ^ unit =
      numerator / denominator * shiftedDenominator := by
    rw [div_eq_iff denominatorPositive.ne', zpow_neg] at shifted
    rw [shifted]
    field_simp
  have left : ((2 * shiftedNumerator : Nat) : ℚ) * 2 ^ unit =
      2 * (numerator / denominator) * shiftedDenominator := by
    push_cast
    rw [mul_assoc, cross, mul_assoc]
  have right : (((2 * significand + 1) * shiftedDenominator : Nat) : ℚ) * 2 ^ unit =
      (2 * significand + 1) * 2 ^ unit * shiftedDenominator := by
    push_cast
    ring
  rw [← Nat.cast_lt (α := ℚ), ← mul_lt_mul_iff_of_pos_right unitPositive, left, right,
    mul_lt_mul_iff_of_pos_right denominatorPositive, ← Nat.cast_inj (R := ℚ),
    ← mul_left_inj' unitPositive.ne', left, right, mul_left_inj' denominatorPositive.ne']

/-- A rounded significand makes an infinite number when it needs more than fifty-three
digits above the greatest unit.  Otherwise the number has its value, also when the
significand is carried. -/
theorem carried_cases
    {significand : Nat}
    {unit : Int}
    (bound : significand ≤ 2 ^ 53)
    (filled : leastExponent < unit → 2 ^ 52 ≤ significand)
    (negative : Bool) :
    (2 ^ 53 * 2 ^ greatestExponent ≤ (significand : ℚ) * 2 ^ unit ∧
        carried negative significand unit = infinite negative) ∨
      (significand : ℚ) * 2 ^ unit < 2 ^ 53 * 2 ^ greatestExponent ∧
        ∃ (stored : Nat) (exponent : Int),
          carried negative significand unit = finite negative stored exponent ∧
            (stored : ℚ) * 2 ^ exponent = significand * 2 ^ unit := by
  simp only [carried, Nat.pow_eq]
  by_cases carries : significand = 2 ^ 53
  · rw [if_pos carries, carries, Nat.cast_pow, Nat.cast_ofNat]
    by_cases beyond : greatestExponent < unit + 1
    · rw [if_pos beyond]
      refine .inl ⟨?_, rfl⟩
      gcongr
      · exact one_le_two
      · omega
    · rw [if_neg beyond]
      refine .inr ⟨?_, 2 ^ 52, unit + 1, rfl, ?_⟩
      · gcongr
        · exact one_lt_two
        · omega
      · rw [zpow_add_one₀ two_ne_zero]
        push_cast
        ring
  · rw [if_neg carries]
    by_cases beyond : greatestExponent < unit
    · rw [if_pos beyond]
      have step := two_mul_zpow_le beyond
      have normal : (2 ^ 52 : ℚ) ≤ significand := by
        exact_mod_cast filled (lt_trans (by decide) beyond)
      refine .inl ⟨?_, rfl⟩
      calc (2 : ℚ) ^ 53 * 2 ^ greatestExponent = 2 ^ 52 * (2 * 2 ^ greatestExponent) := by ring
        _ ≤ (significand : ℚ) * 2 ^ unit := by gcongr
    · rw [if_neg beyond]
      have small : (significand : ℚ) < 2 ^ 53 := by
        exact_mod_cast bound.lt_of_ne carries
      refine .inr ⟨?_, significand, unit, rfl, rfl⟩
      calc (significand : ℚ) * 2 ^ unit < 2 ^ 53 * 2 ^ unit := by gcongr
        _ ≤ 2 ^ 53 * 2 ^ greatestExponent := by
            gcongr
            · exact one_le_two
            · omega

section Quotient

variable
  {numerator denominator : Nat}
  (numeratorPositive : 0 < numerator)
  (denominatorPositive : 0 < denominator)

include numeratorPositive denominatorPositive

/-- A quotient has at most fifty-three binary digits above its unit. -/
theorem quotient_lt_unit :
    (numerator / denominator : ℚ) < 2 ^ 53 * 2 ^ unitExponent numerator denominator := by
  refine (leadingExponent_spec numeratorPositive denominatorPositive).2.trans_le ?_
  rw [← zpow_natCast, ← zpow_add₀ two_ne_zero]
  refine zpow_le_zpow_right₀ one_le_two ?_
  rw [unitExponent]
  omega

/-- Unless its unit is the least one, a quotient has fifty-three digits above it. -/
theorem unit_le_quotient
    (above : leastExponent < unitExponent numerator denominator) :
    2 ^ 52 * 2 ^ unitExponent numerator denominator ≤ (numerator / denominator : ℚ) := by
  refine le_trans ?_ (leadingExponent_spec numeratorPositive denominatorPositive).1
  rw [← zpow_natCast, ← zpow_add₀ two_ne_zero]
  refine zpow_le_zpow_right₀ one_le_two ?_
  rw [unitExponent] at above ⊢
  omega

theorem roundedSignificand_le :
    roundedSignificand numerator denominator ≤ 2 ^ 53 := by
  rw [roundedSignificand_le_iff denominatorPositive]
  have fits := quotient_lt_unit numeratorPositive denominatorPositive
  have unitPositive : (0 : ℚ) < 2 ^ unitExponent numerator denominator := by positivity
  refine .inl ?_
  push_cast
  linarith

theorem le_roundedSignificand
    (above : leastExponent < unitExponent numerator denominator) :
    2 ^ 52 ≤ roundedSignificand numerator denominator := by
  have filled := unit_le_quotient numeratorPositive denominatorPositive above
  have unitPositive : (0 : ℚ) < 2 ^ unitExponent numerator denominator := by positivity
  suffices ¬roundedSignificand numerator denominator ≤ 2 ^ 52 - 1 by omega
  rw [roundedSignificand_le_iff denominatorPositive, RoundsDown]
  push_cast
  rintro (down | ⟨same, _⟩) <;> linarith

/-- Below the boundary above a significand of fifty-three digits a quotient is rounded to
its value or to less. -/
theorem roundedQuotient_le
    {significand : Nat}
    {unit : Int}
    (normal : 2 ^ 52 ≤ significand)
    (fits : significand < 2 ^ 53)
    (least : leastExponent ≤ unit)
    (down : RoundsDown (numerator / denominator) significand unit) :
    roundedQuotient numerator denominator ≤ significand * 2 ^ unit := by
  have normalToo : (2 ^ 52 : ℚ) ≤ significand := by exact_mod_cast normal
  have fitsToo : (significand + 1 : ℚ) ≤ 2 ^ 53 := by exact_mod_cast fits
  have unitPositive : (0 : ℚ) < 2 ^ unit := by positivity
  rw [roundedQuotient]
  rcases lt_trichotomy (unitExponent numerator denominator) unit with finer | same | coarser
  · have step := two_mul_zpow_le finer
    have bound : (roundedSignificand numerator denominator : ℚ) ≤ 2 ^ 53 := by
      exact_mod_cast roundedSignificand_le numeratorPositive denominatorPositive
    calc (roundedSignificand numerator denominator : ℚ) *
          2 ^ unitExponent numerator denominator
        ≤ 2 ^ 53 * 2 ^ unitExponent numerator denominator := by gcongr
      _ = 2 ^ 52 * (2 * 2 ^ unitExponent numerator denominator) := by ring
      _ ≤ significand * 2 ^ unit := by gcongr
  · rw [← same, ← roundedSignificand_le_iff denominatorPositive] at down
    rw [same]
    gcongr
  · -- a coarser unit puts the quotient above the boundary
    exfalso
    have step := two_mul_zpow_le coarser
    have filled := unit_le_quotient numeratorPositive denominatorPositive
      (least.trans_lt coarser)
    have room := mul_le_mul_of_nonneg_right fitsToo unitPositive.le
    rcases down with below | ⟨on, _⟩ <;> linarith

/-- Beyond that boundary it is rounded to the next significand or to more. -/
theorem le_roundedQuotient
    {significand : Nat}
    {unit : Int}
    (normal : 2 ^ 52 ≤ significand)
    (fits : significand < 2 ^ 53)
    (least : leastExponent ≤ unit)
    (up : ¬RoundsDown (numerator / denominator) significand unit) :
    (significand + 1) * 2 ^ unit ≤ roundedQuotient numerator denominator := by
  have normalToo : (2 ^ 52 : ℚ) ≤ significand := by exact_mod_cast normal
  have fitsToo : (significand + 1 : ℚ) ≤ 2 ^ 53 := by exact_mod_cast fits
  have unitPositive : (0 : ℚ) < 2 ^ unit := by positivity
  rw [roundedQuotient]
  rcases lt_trichotomy (unitExponent numerator denominator) unit with finer | same | coarser
  · -- a finer unit puts the quotient below the boundary
    exfalso
    have step := two_mul_zpow_le finer
    have small := quotient_lt_unit numeratorPositive denominatorPositive
    have room := mul_le_mul_of_nonneg_right normalToo unitPositive.le
    refine up (.inl ?_)
    linarith
  · rw [← same, ← roundedSignificand_le_iff denominatorPositive, not_le] at up
    rw [same]
    gcongr
    exact_mod_cast up
  · have step := two_mul_zpow_le coarser
    have bound : (2 ^ 52 : ℚ) ≤ roundedSignificand numerator denominator := by
      exact_mod_cast le_roundedSignificand numeratorPositive denominatorPositive
        (least.trans_lt coarser)
    calc (significand + 1 : ℚ) * 2 ^ unit ≤ 2 ^ 53 * 2 ^ unit := by gcongr
      _ = 2 ^ 52 * (2 * 2 ^ unit) := by ring
      _ ≤ roundedSignificand numerator denominator *
          2 ^ unitExponent numerator denominator := by gcongr

/-- The nearest number is infinite when the rounded quotient needs more than fifty-three
digits above the greatest unit, and has the value of the rounded quotient otherwise. -/
theorem nearest_cases
    (negative : Bool) :
    (2 ^ 53 * 2 ^ greatestExponent ≤ roundedQuotient numerator denominator ∧
        nearest negative numerator denominator = infinite negative) ∨
      roundedQuotient numerator denominator < 2 ^ 53 * 2 ^ greatestExponent ∧
        ∃ (significand : Nat) (exponent : Int),
          nearest negative numerator denominator = finite negative significand exponent ∧
            (significand : ℚ) * 2 ^ exponent = roundedQuotient numerator denominator := by
  have near : nearest negative numerator denominator =
      carried negative (roundedSignificand numerator denominator)
        (unitExponent numerator denominator) := by
    rw [nearest, if_neg numeratorPositive.ne']
    rfl
  rw [near, roundedQuotient]
  exact carried_cases (roundedSignificand_le numeratorPositive denominatorPositive)
    (le_roundedSignificand numeratorPositive denominatorPositive) negative

end Quotient

/-! ## Exact values and results -/

theorem exists_finite_of_isFinite
    {value : Binary64}
    (isFinite : value.isFinite = true) :
    ∃ negative significand exponent, value = finite negative significand exponent := by
  cases value with
  | finite negative significand exponent => exact ⟨_, _, _, rfl⟩
  | infinite negative => cases isFinite
  | notNumber => cases isFinite

/-- The exact value of a finite number; the others count as nothing. -/
def toRat : Binary64 → ℚ
  | finite negative significand exponent =>
      (if negative then -1 else 1) * (significand * 2 ^ exponent)
  | infinite _ => 0
  | notNumber => 0

@[simp] theorem toRat_zero
    (negative : Bool) :
    (zero negative).toRat = 0 := by
  simp [zero, toRat]

theorem abs_toRat_finite
    (negative : Bool)
    (significand : Nat)
    (exponent : Int) :
    |(finite negative significand exponent).toRat| = significand * 2 ^ exponent := by
  rw [toRat, abs_mul, abs_of_nonneg (by positivity : (0 : ℚ) ≤ significand * 2 ^ exponent)]
  cases negative <;> simp

theorem toRat_pos_iff
    (negative : Bool)
    (significand : Nat)
    (exponent : Int) :
    0 < (finite negative significand exponent).toRat ↔
      negative = false ∧ 0 < significand := by
  have powerPositive : (0 : ℚ) < 2 ^ exponent := by positivity
  have notNegative : (0 : ℚ) ≤ significand * 2 ^ exponent := by positivity
  cases negative with
  | false => simp [toRat, powerPositive]
  | true => simp [toRat, notNegative]

theorem toRat_neg_iff
    (negative : Bool)
    (significand : Nat)
    (exponent : Int) :
    (finite negative significand exponent).toRat < 0 ↔
      negative = true ∧ 0 < significand := by
  have powerPositive : (0 : ℚ) < 2 ^ exponent := by positivity
  have notNegative : (0 : ℚ) ≤ significand * 2 ^ exponent := by positivity
  cases negative with
  | false => simp [toRat, notNegative]
  | true => simp [toRat, powerPositive]

/-- A finite number is positive when its exact value is. -/
theorem isPositive_iff
    {value : Binary64}
    (isFinite : value.isFinite = true) :
    value.isPositive = true ↔ 0 < value.toRat := by
  obtain ⟨negative, significand, exponent, rfl⟩ := exists_finite_of_isFinite isFinite
  rw [toRat_pos_iff]
  simp [isPositive, Nat.pos_iff_ne_zero]

/-- Nothing is none of a positive number. -/
theorem zero_div_of_pos
    {value : Binary64}
    (isFinite : value.isFinite = true)
    (above : 0 < value.toRat) :
    (zero false).div value = zero false := by
  obtain ⟨negative, significand, exponent, rfl⟩ := exists_finite_of_isFinite isFinite
  obtain ⟨rfl, filled⟩ := (toRat_pos_iff ..).mp above
  simp [zero, div, filled.ne', nearest]

theorem pos_of_toRat_ne_zero
    {negative : Bool}
    {significand : Nat}
    {exponent : Int}
    (filled : (finite negative significand exponent).toRat ≠ 0) :
    0 < significand := by
  rcases filled.lt_or_gt with below | above
  · exact ((toRat_neg_iff ..).mp below).2
  · exact ((toRat_pos_iff ..).mp above).2

/-- Numbers whose exact value has this magnitude or more are infinite when rounded: it lies
halfway between the largest finite number and `2 ^ 1024`. -/
def overflowLimit : ℚ := (2 ^ 54 - 1) * 2 ^ 970

/-- The number is the one nearest to an exact result.  The sign of an exact zero is left
open. -/
inductive Rounds : ℚ → Binary64 → Prop
  | zero
      (negative : Bool) :
      Rounds 0 (zero negative)
  | nearest
      {exact : ℚ}
      {numerator denominator : Nat}
      (numeratorPositive : 0 < numerator)
      (denominatorPositive : 0 < denominator)
      (size : |exact| = numerator / denominator) :
      Rounds exact (nearest (exact < 0) numerator denominator)

theorem rounds_nearest
    {exact : ℚ}
    {negative : Bool}
    {numerator denominator : Nat}
    (denominatorPositive : 0 < denominator)
    (size : |exact| = numerator / denominator)
    (sign : exact ≠ 0 → (negative = true ↔ exact < 0)) :
    Rounds exact (nearest negative numerator denominator) := by
  rcases Nat.eq_zero_or_pos numerator with rfl | numeratorPositive
  · rw [Nat.cast_zero, zero_div, abs_eq_zero] at size
    rw [size, nearest_zero]
    exact .zero negative
  · have filled : exact ≠ 0 := by
      rw [← abs_pos, size]
      positivity
    rw [Bool.eq_iff_iff.mpr ((sign filled).trans decide_eq_true_iff.symm)]
    exact .nearest numeratorPositive denominatorPositive size

theorem rounds_scaled
    {exact : ℚ}
    {negative : Bool}
    {significand : Nat}
    {exponent : Int}
    (size : |exact| = significand * 2 ^ exponent)
    (sign : exact ≠ 0 → (negative = true ↔ exact < 0)) :
    Rounds exact (scaled negative significand exponent) := by
  refine rounds_nearest (Nat.pow_pos Nat.two_pos) ?_ sign
  have shifted := cast_shifted significand 1 exponent
  rw [Nat.one_mul, Nat.cast_one, div_one] at shifted
  rw [shifted, size]

section Operations

variable
  (leftNegative rightNegative : Bool)
  (left right : Nat)
  (leftExponent rightExponent : Int)

/-- The product is the exact product, rounded. -/
theorem rounds_mul :
    let leftNumber := finite leftNegative left leftExponent
    let rightNumber := finite rightNegative right rightExponent
    Rounds (leftNumber.toRat * rightNumber.toRat) (leftNumber.mul rightNumber) := by
  intro leftNumber rightNumber
  refine rounds_scaled ?_ ?_
  · rw [abs_mul, abs_toRat_finite, abs_toRat_finite, zpow_add₀ two_ne_zero]
    push_cast
    ring
  · intro filled
    have leftPositive : 0 < left := pos_of_toRat_ne_zero (left_ne_zero_of_mul filled)
    have rightPositive : 0 < right := pos_of_toRat_ne_zero (right_ne_zero_of_mul filled)
    rw [mul_neg_iff, toRat_pos_iff, toRat_pos_iff, toRat_neg_iff, toRat_neg_iff]
    cases leftNegative <;> cases rightNegative <;> simp [leftPositive, rightPositive]

/-- The quotient by a number other than zero is the exact quotient, rounded. -/
theorem rounds_div
    (rightPositive : 0 < right) :
    let leftNumber := finite leftNegative left leftExponent
    let rightNumber := finite rightNegative right rightExponent
    Rounds (leftNumber.toRat / rightNumber.toRat) (leftNumber.div rightNumber) := by
  intro leftNumber rightNumber
  simp only [leftNumber, rightNumber, div, if_neg rightPositive.ne']
  refine rounds_nearest (Nat.mul_pos rightPositive (Nat.pow_pos Nat.two_pos)) ?_ ?_
  · rw [abs_div, abs_toRat_finite, abs_toRat_finite, cast_shifted, zpow_sub₀ two_ne_zero,
      mul_div_mul_comm]
  · intro filled
    have leftPositive : 0 < left := pos_of_toRat_ne_zero (div_ne_zero_iff.mp filled).1
    rw [div_neg_iff, toRat_pos_iff, toRat_pos_iff, toRat_neg_iff, toRat_neg_iff]
    cases leftNegative <;> cases rightNegative <;> simp [leftPositive, rightPositive]

/-- On a grid that is fine enough a number stands for its exact value. -/
theorem onGrid_mul
    {grid exponent : Int}
    (fine : grid ≤ exponent)
    (negative : Bool)
    (significand : Nat) :
    (onGrid grid negative significand exponent : ℚ) * 2 ^ grid =
      (finite negative significand exponent).toRat := by
  have power : (2 : ℚ) ^ (exponent - grid).toNat * 2 ^ grid = 2 ^ exponent := by
    rw [← zpow_natCast, ← zpow_add₀ two_ne_zero]
    congr 1
    omega
  cases negative with
  | false => simp [onGrid, toRat, mul_assoc, power]
  | true => simp [onGrid, toRat, mul_assoc, power]

/-- The difference is the exact difference, rounded. -/
theorem rounds_sub :
    let leftNumber := finite leftNegative left leftExponent
    let rightNumber := finite rightNegative right rightExponent
    Rounds (leftNumber.toRat - rightNumber.toRat) (leftNumber.sub rightNumber) := by
  intro leftNumber rightNumber
  have leftValue := onGrid_mul (min_le_left leftExponent rightExponent) leftNegative left
  have rightValue := onGrid_mul (min_le_right leftExponent rightExponent) rightNegative right
  simp only [leftNumber, rightNumber, sub]
  -- both numbers are whole multiples of the finer of their units, and so is the difference
  rw [← leftValue, ← rightValue, ← sub_mul, ← Int.cast_sub]
  generalize onGrid (min leftExponent rightExponent) leftNegative left leftExponent -
    onGrid (min leftExponent rightExponent) rightNegative right rightExponent = difference
  have gridPositive : (0 : ℚ) < 2 ^ min leftExponent rightExponent := by positivity
  split_ifs with same
  · rw [same, Int.cast_zero, zero_mul]
    exact .zero _
  · refine rounds_scaled ?_ ?_
    · rw [abs_mul, abs_of_pos gridPositive, Nat.cast_natAbs, Int.cast_abs]
    · intro _
      rw [decide_eq_true_iff, mul_neg_iff]
      simp [gridPositive, gridPositive.le]

end Operations

/-! ## What is finite when rounded, and how large -/

/-- The boundary above the largest finite number is odd, and rounds up. -/
theorem roundsDown_largest_iff
    (quotient : ℚ) :
    RoundsDown quotient (2 ^ 53 - 1) greatestExponent ↔ quotient < overflowLimit := by
  have boundary :
      (2 * ((2 ^ 53 - 1 : Nat) : ℚ) + 1) * 2 ^ greatestExponent = 2 * overflowLimit := by
    have power : (2 : ℚ) ^ greatestExponent = 2 * 2 ^ 970 := by
      have exponents : greatestExponent = 1 + (970 : Nat) := by decide
      rw [exponents, zpow_one_add₀ two_ne_zero, zpow_natCast]
    rw [overflowLimit, power]
    generalize (2 : ℚ) ^ 970 = unit
    push_cast
    ring
  rw [RoundsDown, boundary, mul_lt_mul_iff_of_pos_left two_pos]
  exact or_iff_left fun tie => absurd tie.2 (by decide)

namespace Rounds

variable
  {exact : ℚ}
  {value : Binary64}
  (rounds : Rounds exact value)

include rounds

/-- A result is infinite, with its sign, from half a unit above the largest finite number
on, and finite below. -/
theorem finite_or_infinite :
    |exact| < overflowLimit ∧ value.isFinite = true ∨
      overflowLimit ≤ |exact| ∧ value = infinite (exact < 0) := by
  have successor : (((2 ^ 53 - 1 : Nat) : ℚ) + 1) = 2 ^ 53 := by norm_num
  have unitPositive : (0 : ℚ) < 2 ^ greatestExponent := by positivity
  cases rounds with
  | zero negative =>
      refine .inl ⟨?_, rfl⟩
      rw [abs_zero]
      exact mul_pos (by norm_num) (pow_pos two_pos _)
  | @nearest _ numerator denominator numeratorPositive denominatorPositive size =>
      rcases nearest_cases numeratorPositive denominatorPositive (decide (exact < 0)) with
        ⟨large, near⟩ | ⟨small, significand, exponent, near, _⟩
      · refine .inr ⟨?_, near⟩
        by_contra below
        rw [not_le, size, ← roundsDown_largest_iff] at below
        have bound := roundedQuotient_le numeratorPositive denominatorPositive
          (by norm_num) (by norm_num) (by decide) below
        rw [← successor] at large
        linarith
      · refine .inl ⟨?_, by rw [near, isFinite_finite]⟩
        by_contra beyond
        rw [size, ← roundsDown_largest_iff] at beyond
        have bound := le_roundedQuotient numeratorPositive denominatorPositive
          (by norm_num) (by norm_num) (by decide) beyond
        rw [successor] at bound
        exact absurd small bound.not_gt

theorem isFinite_iff :
    value.isFinite = true ↔ |exact| < overflowLimit := by
  rcases rounds.finite_or_infinite with ⟨small, isFinite⟩ | ⟨large, same⟩
  · exact iff_of_true isFinite small
  · rw [same, isFinite_infinite]
    exact iff_of_false Bool.false_ne_true large.not_gt

/-- Below the boundary above a significand a result is no larger than that. -/
theorem abs_toRat_le
    {significand : Nat}
    {unit : Int}
    (normal : 2 ^ 52 ≤ significand)
    (fits : significand < 2 ^ 53)
    (least : leastExponent ≤ unit)
    (down : RoundsDown |exact| significand unit) :
    |value.toRat| ≤ significand * 2 ^ unit := by
  have boundPositive : (0 : ℚ) ≤ significand * 2 ^ unit := by positivity
  cases rounds with
  | zero negative => rwa [toRat_zero, abs_zero]
  | @nearest _ numerator denominator numeratorPositive denominatorPositive size =>
      rw [size] at down
      rcases nearest_cases numeratorPositive denominatorPositive (decide (exact < 0)) with
        ⟨_, near⟩ | ⟨_, _, _, near, magnitude⟩
      · rwa [near, toRat, abs_zero]
      · rw [near, abs_toRat_finite, magnitude]
        exact roundedQuotient_le numeratorPositive denominatorPositive normal fits least down

/-- Beyond that boundary a finite result is as large as the next significand at least. -/
theorem le_abs_toRat
    {significand : Nat}
    {unit : Int}
    (normal : 2 ^ 52 ≤ significand)
    (fits : significand < 2 ^ 53)
    (least : leastExponent ≤ unit)
    (up : ¬RoundsDown |exact| significand unit)
    (isFinite : value.isFinite = true) :
    (significand + 1) * 2 ^ unit ≤ |value.toRat| := by
  cases rounds with
  | zero negative =>
      refine absurd (.inl ?_) up
      rw [abs_zero, mul_zero]
      positivity
  | @nearest _ numerator denominator numeratorPositive denominatorPositive size =>
      rw [size] at up
      rcases nearest_cases numeratorPositive denominatorPositive (decide (exact < 0)) with
        ⟨_, near⟩ | ⟨_, _, _, near, magnitude⟩
      · rw [near, isFinite_infinite] at isFinite
        cases isFinite
      · rw [near, abs_toRat_finite, magnitude]
        exact le_roundedQuotient numeratorPositive denominatorPositive normal fits least up

/-- Rounding does not change the sign. -/
theorem mul_toRat_nonneg :
    0 ≤ exact * value.toRat := by
  cases rounds with
  | zero negative => rw [zero_mul]
  | @nearest _ numerator denominator numeratorPositive denominatorPositive size =>
      rcases nearest_cases numeratorPositive denominatorPositive (decide (exact < 0)) with
        ⟨_, near⟩ | ⟨_, significand, exponent, near, _⟩
      · rw [near, toRat, mul_zero]
      · rw [near]
        by_cases below : exact < 0
        · refine mul_nonneg_of_nonpos_of_nonpos below.le ?_
          rw [← not_lt, toRat_pos_iff]
          simp [below]
        · refine mul_nonneg (not_lt.mp below) ?_
          rw [← not_lt, toRat_neg_iff]
          simp [below]

end Rounds

end Binary64
end Number
end FleetDashboard
