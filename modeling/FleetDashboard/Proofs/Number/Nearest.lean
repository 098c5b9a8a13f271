import FleetDashboard.Proofs.Number.Rounding

/-!
# The nearest number

A finite result of rounding is the number of the format that lies nearest to the exact
result, and of two that are equally near the one with an even significand.  Numbers in the
unit of the result lie on one grid with it, and numbers in a finer unit are too small to
come as near.
-/

namespace FleetDashboard
namespace Number
namespace Binary64

/-- A finite number of the format, in any of the ways in which it can be written: with at
most fifty-three binary digits and an exponent within bounds. -/
def IsRepresentable : Binary64 → Prop
  | finite _ significand exponent =>
      significand < 2 ^ 53 ∧ leastExponent ≤ exponent ∧ exponent ≤ greatestExponent
  | infinite _ => False
  | notNumber => False

/-- All fifty-three digits are used unless the exponent is the least one, so that there is
only one significand for the number. -/
def IsNormalized : Binary64 → Prop
  | finite _ significand exponent => 2 ^ 52 ≤ significand ∨ exponent = leastExponent
  | infinite _ => False
  | notNumber => False

/-- The last binary digit is zero. -/
def HasEvenSignificand : Binary64 → Prop
  | finite _ significand _ => significand % 2 = 0
  | infinite _ => False
  | notNumber => False

/-- The number of the format nearest to an exact value, ties to the even significand. -/
structure IsNearest
    (exact : ℚ)
    (value : Binary64) : Prop where
  isRepresentable : value.IsRepresentable
  isNormalized : value.IsNormalized
  nearest : ∀ other : Binary64, other.IsRepresentable →
    |exact - value.toRat| ≤ |exact - other.toRat|
  even : ∀ other : Binary64, other.IsRepresentable → other.toRat ≠ value.toRat →
    |exact - other.toRat| = |exact - value.toRat| → value.HasEvenSignificand

/-- A number of the format is nearest to itself. -/
theorem IsNearest.toRat_eq
    {value other : Binary64}
    (isNearest : IsNearest other.toRat value)
    (isRepresentable : other.IsRepresentable) :
    value.toRat = other.toRat := by
  have near := isNearest.nearest other isRepresentable
  rw [sub_self, abs_zero, abs_nonpos_iff, sub_eq_zero] at near
  exact near.symm

/-- Every whole number up to `2 ^ 53` is a number of the format. -/
theorem exists_isRepresentable_eq
    {whole : Int}
    (small : whole.natAbs ≤ 2 ^ 53) :
    ∃ value : Binary64, value.IsRepresentable ∧ value.toRat = whole := by
  have signed : ((if whole < 0 then -1 else 1 : ℚ)) * whole.natAbs = whole := by
    rw [Nat.cast_natAbs, Int.cast_abs]
    split_ifs with below
    · rw [abs_of_neg (by exact_mod_cast below), neg_one_mul, neg_neg]
    · rw [abs_of_nonneg (by exact_mod_cast not_lt.mp below), one_mul]
  rcases small.lt_or_eq with fits | greatest
  · refine ⟨finite (whole < 0) whole.natAbs 0, ⟨fits, by decide, by decide⟩, ?_⟩
    rw [toRat, zpow_zero, mul_one]
    simpa using signed
  · refine ⟨finite (whole < 0) (2 ^ 52) 1, ⟨by norm_num, by decide, by decide⟩, ?_⟩
    rw [greatest] at signed
    rw [toRat, ← signed]
    push_cast
    simp only [decide_eq_true_eq]
    ring

/-! ## The grid of a unit -/

/-- The value is a whole multiple of a power of two, or below every number that fills its
digits in that unit. -/
def LiesOnOrBelowGrid
    (unit : Int)
    (value : ℚ) : Prop :=
  (∃ multiple : Int, value = multiple * 2 ^ unit) ∨
    leastExponent < unit ∧ value < 2 ^ 52 * 2 ^ unit

/-- Every number of the format lies on the grid of a unit or below it, and so does its
opposite. -/
theorem liesOnOrBelowGrid_of_isRepresentable
    {value : Binary64}
    (isRepresentable : value.IsRepresentable)
    (unit : Int)
    {sign : ℚ}
    (isSign : sign = 1 ∨ sign = -1) :
    LiesOnOrBelowGrid unit (sign * value.toRat) := by
  cases value with
  | infinite negative => exact isRepresentable.elim
  | notNumber => exact isRepresentable.elim
  | finite negative significand exponent =>
      obtain ⟨fits, least, _⟩ := isRepresentable
      rcases le_or_gt unit exponent with coarser | finer
      · left
        have power : (2 : ℚ) ^ exponent = 2 ^ (exponent - unit).toNat * 2 ^ unit := by
          rw [← zpow_natCast, ← zpow_add₀ two_ne_zero]
          congr 1
          omega
        have signed : ∃ whole : Int, (whole : ℚ) = sign * if negative then -1 else 1 := by
          rcases isSign with rfl | rfl <;> cases negative
          · exact ⟨1, by simp⟩
          · exact ⟨-1, by simp⟩
          · exact ⟨-1, by simp⟩
          · exact ⟨1, by simp⟩
        obtain ⟨whole, same⟩ := signed
        refine ⟨whole * (significand * 2 ^ (exponent - unit).toNat : Nat), ?_⟩
        rw [toRat, power]
        push_cast
        rw [same]
        ring
      · right
        refine ⟨lt_of_le_of_lt least finer, ?_⟩
        have step := two_mul_zpow_le finer
        have small : (significand : ℚ) < 2 ^ 53 := by exact_mod_cast fits
        have signSize : |sign| = 1 := by
          rcases isSign with rfl | rfl <;> simp
        calc sign * (finite negative significand exponent).toRat
            ≤ |sign * (finite negative significand exponent).toRat| := le_abs_self _
          _ = significand * 2 ^ exponent := by rw [abs_mul, signSize, one_mul, abs_toRat_finite]
          _ < 2 ^ 53 * 2 ^ exponent := by gcongr
          _ = 2 ^ 52 * (2 * 2 ^ exponent) := by ring
          _ ≤ 2 ^ 52 * 2 ^ unit := by gcongr

section Quotient

variable
  {numerator denominator : Nat}
  (numeratorPositive : 0 < numerator)
  (denominatorPositive : 0 < denominator)

include numeratorPositive denominatorPositive

/-- A quotient is rounded by half a unit at most, and by that much only to an even
significand. -/
theorem two_mul_abs_sub_roundedQuotient :
    let distance : ℚ := |numerator / denominator - roundedQuotient numerator denominator|
    let unit : ℚ := 2 ^ unitExponent numerator denominator
    2 * distance < unit ∨
      2 * distance = unit ∧ roundedSignificand numerator denominator % 2 = 0 := by
  intro distance unit
  have positive : (0 : ℚ) < numerator / denominator := by positivity
  have notAbove := (roundedSignificand_le_iff denominatorPositive numerator
    (roundedSignificand numerator denominator)).mp le_rfl
  have unitPositive : 0 < unit := by positivity
  simp only [distance, roundedQuotient]
  change RoundsDown _ _ _ at notAbove
  rw [RoundsDown] at notAbove
  rcases le_total (numerator / denominator : ℚ)
      (roundedSignificand numerator denominator * unit) with below | above
  · rw [abs_of_nonpos (sub_nonpos.mpr below)]
    -- the quotient lies above the boundary below the significand
    cases rounded : roundedSignificand numerator denominator with
    | zero =>
        rw [rounded, Nat.cast_zero, zero_mul] at below
        exact absurd positive below.not_gt
    | succ less =>
        have notBelow : ¬RoundsDown (numerator / denominator) less
            (unitExponent numerator denominator) := by
          rw [← roundedSignificand_le_iff denominatorPositive, rounded]
          omega
        rw [RoundsDown, not_or, not_lt] at notBelow
        obtain ⟨least, noTie⟩ := notBelow
        rcases least.lt_or_eq with strictly | tie
        · left
          push_cast
          linarith
        · right
          have odd : ¬less % 2 = 0 := fun even => noTie ⟨tie.symm, even⟩
          refine ⟨?_, by omega⟩
          push_cast
          linarith
  · rw [abs_of_nonneg (sub_nonneg.mpr above)]
    rcases notAbove with strictly | ⟨tie, even⟩
    · left
      linarith
    · right
      exact ⟨by linarith, even⟩

/-- On its grid nothing lies nearer to a quotient than what it is rounded to, and nothing
else lies as near unless the significand is even. -/
theorem abs_sub_roundedQuotient_le_of_multiple
    (multiple : Int) :
    let value : ℚ := multiple * 2 ^ unitExponent numerator denominator
    let rounded := roundedQuotient numerator denominator
    |numerator / denominator - rounded| ≤ |numerator / denominator - value| ∧
      (value ≠ rounded →
        |numerator / denominator - value| = |numerator / denominator - rounded| →
          roundedSignificand numerator denominator % 2 = 0) := by
  intro value rounded
  have half := two_mul_abs_sub_roundedQuotient numeratorPositive denominatorPositive
  have unitPositive : (0 : ℚ) < 2 ^ unitExponent numerator denominator := by positivity
  by_cases same : value = rounded
  · rw [same]
    exact ⟨le_rfl, fun different => absurd rfl different⟩
  · have apart : (2 : ℚ) ^ unitExponent numerator denominator ≤ |value - rounded| := by
      have steps : value - rounded =
          (multiple - roundedSignificand numerator denominator : Int) *
            2 ^ unitExponent numerator denominator := by
        simp only [value, rounded, roundedQuotient]
        push_cast
        ring
      have filled : multiple - roundedSignificand numerator denominator ≠ 0 := by
        intro none
        rw [none, Int.cast_zero, zero_mul] at steps
        exact same (sub_eq_zero.mp steps)
      have whole :
          (1 : ℚ) ≤ |((multiple - roundedSignificand numerator denominator : Int) : ℚ)| := by
        exact_mod_cast Int.one_le_abs filled
      rw [steps, abs_mul, abs_of_pos unitPositive]
      exact le_mul_of_one_le_left unitPositive.le whole
    have triangle : |value - rounded| ≤
        |numerator / denominator - value| + |numerator / denominator - rounded| := by
      have detour := abs_sub_le value (numerator / denominator) rounded
      rwa [abs_sub_comm value (numerator / denominator)] at detour
    refine ⟨?_, ?_⟩
    · rcases half with strictly | ⟨tie, _⟩ <;> linarith
    · intro _ asNear
      rcases half with strictly | ⟨_, even⟩
      · linarith
      · exact even

/-- No number of the format lies nearer to a quotient than what it is rounded to, and no
other one lies as near unless the significand is even. -/
theorem abs_sub_roundedQuotient_le
    {value : ℚ}
    (lies : LiesOnOrBelowGrid (unitExponent numerator denominator) value) :
    let rounded := roundedQuotient numerator denominator
    |numerator / denominator - rounded| ≤ |numerator / denominator - value| ∧
      (value ≠ rounded →
        |numerator / denominator - value| = |numerator / denominator - rounded| →
          roundedSignificand numerator denominator % 2 = 0) := by
  rcases lies with ⟨multiple, rfl⟩ | ⟨above, below⟩
  · exact abs_sub_roundedQuotient_le_of_multiple numeratorPositive denominatorPositive multiple
  · -- the least number that fills its digits lies between the value and the quotient
    intro rounded
    have filled := unit_le_quotient numeratorPositive denominatorPositive above
    have near := (abs_sub_roundedQuotient_le_of_multiple numeratorPositive denominatorPositive
      (2 ^ 52)).1
    rw [Int.cast_pow, Int.cast_ofNat] at near
    have nearer :
        |(numerator / denominator : ℚ) - rounded| < |numerator / denominator - value| := by
      rw [abs_of_nonneg (sub_nonneg.mpr filled)] at near
      rw [abs_of_pos (sub_pos.mpr (below.trans_le filled))]
      linarith
    exact ⟨nearer.le, fun _ asNear => absurd asNear nearer.ne'⟩

end Quotient

/-! ## Results -/

/-- What a rounded significand makes is a number of the format unless it is infinite, and
its significand stays even when it is carried. -/
theorem carried_of_isFinite
    {significand : Nat}
    {unit : Int}
    {negative : Bool}
    (bound : significand ≤ 2 ^ 53)
    (filled : leastExponent < unit → 2 ^ 52 ≤ significand)
    (least : leastExponent ≤ unit)
    (isFinite : (carried negative significand unit).isFinite = true) :
    (carried negative significand unit).IsRepresentable ∧
      (carried negative significand unit).IsNormalized ∧
      (carried negative significand unit).toRat =
        (if negative then -1 else 1) * (significand * 2 ^ unit) ∧
      (significand % 2 = 0 → (carried negative significand unit).HasEvenSignificand) := by
  simp only [carried, Nat.pow_eq] at isFinite ⊢
  by_cases carries : significand = 2 ^ 53
  · rw [if_pos carries] at isFinite ⊢
    by_cases beyond : greatestExponent < unit + 1
    · rw [if_pos beyond] at isFinite
      cases isFinite
    · rw [if_neg beyond]
      refine ⟨⟨by norm_num, by omega, by omega⟩, .inl le_rfl, ?_, fun _ => ?_⟩
      · rw [toRat, carries, zpow_add_one₀ two_ne_zero]
        push_cast
        ring
      · norm_num [HasEvenSignificand]
  · rw [if_neg carries] at isFinite ⊢
    by_cases beyond : greatestExponent < unit
    · rw [if_pos beyond] at isFinite
      cases isFinite
    · rw [if_neg beyond]
      refine ⟨⟨by omega, least, by omega⟩, ?_, rfl, id⟩
      rcases least.lt_or_eq with above | same
      · exact .inl (filled above)
      · exact .inr same.symm

theorem isNearest_zero
    (negative : Bool) :
    IsNearest 0 (zero negative) where
  isRepresentable := ⟨by norm_num, le_rfl, by decide⟩
  isNormalized := .inr rfl
  nearest := by
    intro other _
    rw [toRat_zero, sub_self, abs_zero]
    exact abs_nonneg _
  even := fun _ _ _ _ => rfl

/-- A finite result is the number of the format nearest to the exact result. -/
theorem Rounds.isNearest
    {exact : ℚ}
    {value : Binary64}
    (rounds : Rounds exact value)
    (isFinite : value.isFinite = true) :
    IsNearest exact value := by
  cases rounds with
  | zero negative => exact isNearest_zero negative
  | @nearest _ numerator denominator numeratorPositive denominatorPositive size =>
      -- with the sign taken off, exact values are the quotient and results are rounded quotients
      let sign : ℚ := if exact < 0 then -1 else 1
      have isSign : sign = 1 ∨ sign = -1 := by
        simp only [sign]
        split_ifs <;> simp
      have signSize : |sign| = 1 := by
        rcases isSign with same | same <;> simp [same]
      have unsigned : sign * exact = numerator / denominator := by
        rw [← size]
        simp only [sign]
        split_ifs with below
        · rw [abs_of_neg below, neg_one_mul]
        · rw [abs_of_nonneg (not_lt.mp below), one_mul]
      have distance (other : ℚ) : |exact - other| = |numerator / denominator - sign * other| := by
        rw [← unsigned, ← mul_sub, abs_mul, signSize, one_mul]
      have made : Binary64.nearest (decide (exact < 0)) numerator denominator =
          carried (decide (exact < 0)) (roundedSignificand numerator denominator)
            (unitExponent numerator denominator) := by
        rw [Binary64.nearest, if_neg numeratorPositive.ne']
        rfl
      rw [made] at isFinite ⊢
      obtain ⟨isRepresentable, isNormalized, toRat_eq, even⟩ :=
        carried_of_isFinite (roundedSignificand_le numeratorPositive denominatorPositive)
          (le_roundedSignificand numeratorPositive denominatorPositive) (le_max_right _ _) isFinite
      have result : sign * (carried (decide (exact < 0))
          (roundedSignificand numerator denominator)
          (unitExponent numerator denominator)).toRat = roundedQuotient numerator denominator := by
        rw [toRat_eq, roundedQuotient]
        simp only [sign, decide_eq_true_eq]
        split_ifs <;> ring
      refine ⟨isRepresentable, isNormalized, ?_, ?_⟩
      · intro other otherRepresentable
        rw [distance, distance, result]
        exact (abs_sub_roundedQuotient_le numeratorPositive denominatorPositive
          (liesOnOrBelowGrid_of_isRepresentable otherRepresentable _ isSign)).1
      · intro other otherRepresentable different asNear
        rw [distance, distance, result] at asNear
        refine even ((abs_sub_roundedQuotient_le numeratorPositive denominatorPositive
          (liesOnOrBelowGrid_of_isRepresentable otherRepresentable _ isSign)).2 ?_ asNear)
        rw [← result]
        intro same
        have filled : sign ≠ 0 := by
          rw [← abs_pos, signSize]
          exact one_pos
        exact different (mul_left_cancel₀ filled same)

/-- A tenth is rounded up to its last binary place; one more than `2 ^ 53` is a tie and
goes down, to the even significand. -/
example :
    (nearest false 1 10).bits = 0x3FB999999999999A ∧
      (ofNat (2 ^ 53 + 1)).bits = 0x4340000000000000 := by
  decide +kernel

end Binary64
end Number
end FleetDashboard
