import FleetDashboard.Proofs.Number.Rounding

/-!
# Hundredfold numbers

A percentage is the hundredfold of a number.  It is infinite from a limit on, and so is
the percentage of an exact ratio that is rounded first; since the rounding jumps there,
the limit of the ratio lies half a unit above the largest number with a finite hundredfold.
-/

namespace FleetDashboard
namespace Number
namespace Binary64

theorem hundred_eq :
    hundred = finite false 7036874417766400 (-46) := by
  decide +kernel

theorem toRat_hundred : hundred.toRat = 100 := by
  rw [hundred_eq]
  norm_num [toRat]

theorem one_eq :
    one = finite false (2 ^ 52) (-52) := by
  decide +kernel

theorem toRat_one : one.toRat = 1 := by
  rw [one_eq]
  norm_num [toRat]

/-- The hundredfold of a finite number is the exact one, rounded. -/
theorem rounds_mul_hundred
    {value : Binary64}
    (isFinite : value.isFinite = true) :
    Rounds (100 * value.toRat) (value.mul hundred) := by
  obtain ⟨negative, significand, exponent, rfl⟩ := exists_finite_of_isFinite isFinite
  rw [mul_comm, ← toRat_hundred, hundred_eq]
  exact rounds_mul ..

theorem isFinite_mul_hundred_iff
    {value : Binary64}
    (isFinite : value.isFinite = true) :
    (value.mul hundred).isFinite = true ↔ 100 * |value.toRat| < overflowLimit := by
  rw [(rounds_mul_hundred isFinite).isFinite_iff, abs_mul, abs_of_nonneg (by norm_num)]

/-- A hundredfold beyond the range is infinite and keeps the sign. -/
theorem mul_hundred_of_overflow
    {value : Binary64}
    (isFinite : value.isFinite = true)
    (beyond : overflowLimit ≤ 100 * |value.toRat|) :
    value.mul hundred = infinite (value.toRat < 0) := by
  have sign : 100 * value.toRat < 0 ↔ value.toRat < 0 := by
    rw [mul_neg_iff]
    norm_num
  rcases (rounds_mul_hundred isFinite).finite_or_infinite with ⟨small, _⟩ | ⟨_, same⟩
  · rw [abs_mul, abs_of_nonneg (by norm_num)] at small
    exact absurd small beyond.not_gt
  · rw [same]
    simp only [sign]

/-- The complement of a finite number is the exact one, rounded. -/
theorem rounds_one_sub
    {value : Binary64}
    (isFinite : value.isFinite = true) :
    Rounds (1 - value.toRat) (one.sub value) := by
  obtain ⟨negative, significand, exponent, rfl⟩ := exists_finite_of_isFinite isFinite
  rw [← toRat_one, one_eq]
  exact rounds_sub ..

theorem one_sub_infinite
    (negative : Bool) :
    one.sub (infinite negative) = infinite (!negative) := by
  rw [one_eq]
  rfl

theorem mul_hundred_infinite
    (negative : Bool) :
    (infinite negative).mul hundred = infinite negative := by
  rw [hundred_eq]
  simp [mul]

/-! ## Percentages of ratios -/

/-- Exact ratios beyond this limit have an infinite percentage.  It lies halfway between
`5764607523034234 * 2 ^ 965`, whose hundredfold is finite, and the next number, whose
hundredfold is not. -/
def ratioLimit : ℚ := 11529215046068469 * 2 ^ 964

theorem ratioLimit_pos : 0 < ratioLimit :=
  mul_pos (by norm_num) (pow_pos two_pos _)

/-- The boundary of the ratio, above an even significand, rounds down. -/
theorem roundsDown_ratio_iff
    (quotient : ℚ) :
    RoundsDown quotient 5764607523034234 965 ↔ quotient ≤ ratioLimit := by
  have boundary :
      (2 * ((5764607523034234 : Nat) : ℚ) + 1) * 2 ^ (965 : Int) = 2 * ratioLimit := by
    have exponents : (965 : Int) = 1 + (964 : Nat) := by decide
    rw [ratioLimit, exponents, zpow_one_add₀ two_ne_zero, zpow_natCast]
    generalize (2 : ℚ) ^ 964 = unit
    push_cast
    ring
  rw [RoundsDown, boundary, mul_lt_mul_iff_of_pos_left two_pos, mul_right_inj' two_ne_zero,
    le_iff_lt_or_eq]
  simp

/-- Both limits in units of the last place of the numbers about the ratio. -/
theorem limits_in_units :
    ∃ unit : ℚ, (2 : ℚ) ^ (965 : Int) = unit ∧ 4 ≤ unit ∧
      2 * ratioLimit = 11529215046068469 * unit ∧ overflowLimit = (2 ^ 54 - 1) * 32 * unit := by
  have large : (2 : ℚ) ^ 2 ≤ 2 ^ 965 := pow_le_pow_right₀ one_le_two (by decide)
  refine ⟨2 ^ 965, zpow_natCast 2 965, le_trans (by norm_num) large, ?_, ?_⟩
  · have power : (2 : ℚ) ^ 965 = 2 ^ 964 * 2 := pow_succ 2 964
    rw [ratioLimit, power]
    generalize (2 : ℚ) ^ 964 = half
    ring
  · have power : (2 : ℚ) ^ 970 = 2 ^ 965 * 2 ^ 5 := pow_add 2 965 5
    rw [overflowLimit, power]
    generalize (2 : ℚ) ^ 965 = unit
    ring

namespace Rounds

variable
  {exact : ℚ}
  {value : Binary64}
  (rounds : Rounds exact value)

include rounds

/-- An exact result up to the limit is finite when rounded, below the limit by one at least,
and so is its percentage. -/
theorem within_ratioLimit
    (within : |exact| ≤ ratioLimit) :
    value.isFinite = true ∧ |value.toRat| + 1 ≤ ratioLimit ∧
      100 * |value.toRat| < overflowLimit := by
  obtain ⟨unit, same, large, ratio, overflow⟩ := limits_in_units
  have bound := rounds.abs_toRat_le (by norm_num) (by norm_num) (by decide)
    ((roundsDown_ratio_iff _).mpr within)
  rw [same] at bound
  push_cast at bound
  -- only the unit counts from here on, not the power that it stands for
  clear same
  refine ⟨rounds.isFinite_iff.mpr ?_, ?_, ?_⟩ <;> linarith

/-- An exact result beyond the limit is infinite when rounded, or beyond the limit by one at
least with an infinite percentage. -/
theorem beyond_ratioLimit
    (beyond : ratioLimit < |exact|) :
    value = infinite (exact < 0) ∨
      value.isFinite = true ∧ ratioLimit + 1 < |value.toRat| ∧
        overflowLimit ≤ 100 * |value.toRat| := by
  obtain ⟨unit, same, large, ratio, overflow⟩ := limits_in_units
  rcases rounds.finite_or_infinite with ⟨_, isFinite⟩ | ⟨_, infinite⟩
  · have bound := rounds.le_abs_toRat (by norm_num) (by norm_num) (by decide)
      (mt (roundsDown_ratio_iff _).mp beyond.not_ge) isFinite
    rw [same] at bound
    push_cast at bound
    clear same
    refine .inr ⟨isFinite, ?_, ?_⟩ <;> linarith
  · exact .inl infinite

/-- The percentage of a rounded result is finite exactly up to the limit. -/
theorem isFinite_mul_hundred_iff :
    (value.mul hundred).isFinite = true ↔ |exact| ≤ ratioLimit := by
  constructor
  · intro isFinite
    by_contra beyond
    rcases rounds.beyond_ratioLimit (not_le.mp beyond) with same | ⟨alsoFinite, _, large⟩
    · rw [same, mul_hundred_infinite] at isFinite
      cases isFinite
    · exact large.not_gt ((Binary64.isFinite_mul_hundred_iff alsoFinite).mp isFinite)
  · intro within
    obtain ⟨isFinite, _, small⟩ := rounds.within_ratioLimit within
    exact (Binary64.isFinite_mul_hundred_iff isFinite).mpr small

theorem toRat_neg_iff_of_ne_zero
    (exactFilled : exact ≠ 0)
    (filled : value.toRat ≠ 0) :
    value.toRat < 0 ↔ exact < 0 := by
  have agrees := rounds.mul_toRat_nonneg
  constructor
  · intro below
    exact (nonpos_of_mul_nonneg_left agrees below).lt_of_ne exactFilled
  · intro below
    exact (nonpos_of_mul_nonneg_right agrees below).lt_of_ne filled

/-- Beyond the limit the percentage is infinite and has the sign of the exact result. -/
theorem mul_hundred_of_beyond
    (beyond : ratioLimit < |exact|) :
    value.mul hundred = infinite (exact < 0) := by
  rcases rounds.beyond_ratioLimit beyond with same | ⟨isFinite, far, large⟩
  · rw [same, mul_hundred_infinite]
  · have sign := rounds.toRat_neg_iff_of_ne_zero (abs_pos.mp (ratioLimit_pos.trans beyond))
      (abs_pos.mp (by linarith [ratioLimit_pos]))
    rw [mul_hundred_of_overflow isFinite large]
    simp only [sign]

/-- The percentage of the complement of a result up to the limit is finite. -/
theorem isFinite_mul_hundred_one_sub
    (within : |exact| ≤ ratioLimit) :
    ((one.sub value).mul hundred).isFinite = true := by
  obtain ⟨isFinite, small, _⟩ := rounds.within_ratioLimit within
  have complement := rounds_one_sub isFinite
  refine complement.isFinite_mul_hundred_iff.mpr ?_
  calc |1 - value.toRat| ≤ |1| + |value.toRat| := abs_sub 1 value.toRat
    _ = |value.toRat| + 1 := by rw [abs_one, add_comm]
    _ ≤ ratioLimit := small

/-- The percentage of the complement of a result beyond the limit is infinite, with the
other sign. -/
theorem mul_hundred_one_sub_of_beyond
    (beyond : ratioLimit < |exact|) :
    (one.sub value).mul hundred = infinite (!decide (exact < 0)) := by
  rcases rounds.beyond_ratioLimit beyond with same | ⟨isFinite, far, _⟩
  · rw [same, one_sub_infinite, mul_hundred_infinite]
  · have farToo : ratioLimit < |1 - value.toRat| := by
      have triangle := abs_sub_abs_le_abs_sub value.toRat 1
      rw [abs_one, abs_sub_comm] at triangle
      linarith
    have sign : 1 - value.toRat < 0 ↔ ¬exact < 0 := by
      rw [← rounds.toRat_neg_iff_of_ne_zero (abs_pos.mp (ratioLimit_pos.trans beyond))
        (abs_pos.mp (by linarith [ratioLimit_pos])), not_lt, sub_neg]
      constructor
      · exact fun above => (one_pos.trans above).le
      · intro notNegative
        rw [abs_of_nonneg notNegative] at far
        linarith [ratioLimit_pos]
    rw [(rounds_one_sub isFinite).mul_hundred_of_beyond farToo]
    simp only [sign, decide_not]

end Rounds

/-! ## Shares -/

/-- A ratio or its complement, in percent. -/
def percent
    (complement : Bool)
    (ratio : Binary64) : Binary64 :=
  (if complement then one.sub ratio else ratio).mul hundred

/-- The percentage of a rounded ratio, or that of its complement, is finite exactly up to
the limit of the ratio. -/
theorem Rounds.isFinite_percent_iff
    {exact : ℚ}
    {ratio : Binary64}
    (rounds : Rounds exact ratio)
    (complement : Bool) :
    (percent complement ratio).isFinite = true ↔ |exact| ≤ ratioLimit := by
  cases complement with
  | false => exact rounds.isFinite_mul_hundred_iff
  | true =>
      refine ⟨?_, rounds.isFinite_mul_hundred_one_sub⟩
      intro isFinite
      by_contra beyond
      have same := rounds.mul_hundred_one_sub_of_beyond (not_le.mp beyond)
      rw [percent, if_pos rfl, same, isFinite_infinite] at isFinite
      cases isFinite

/-- Beyond the limit the percentage has the sign of the ratio, and that of the complement
has the other one. -/
theorem Rounds.percent_of_beyond
    {exact : ℚ}
    {ratio : Binary64}
    (rounds : Rounds exact ratio)
    (beyond : ratioLimit < |exact|)
    (complement : Bool) :
    percent complement ratio = infinite (complement ^^ decide (exact < 0)) := by
  cases complement with
  | false =>
      rw [Bool.false_xor]
      exact rounds.mul_hundred_of_beyond beyond
  | true =>
      rw [Bool.true_xor]
      exact rounds.mul_hundred_one_sub_of_beyond beyond

end Binary64
end Number
end FleetDashboard
