import FleetDashboard.Proofs.Text.Numeral
import FleetDashboard.Stack.Utilization
import Mathlib.Algebra.Group.Action.Defs
import Mathlib.Algebra.Order.BigOperators.Group.List
import Mathlib.Algebra.Order.Ring.Nat
import Mathlib.Data.UInt

/-!
# Totals of an organization

A total adds up what is measured of every sample that reports a positive whole number.
So it does not depend on the order of the samples, samples that report nothing of the kind
do not count, and the totals of two lists add up to the total of both.  Rounding every
sample down to whole gigabytes loses less than a gigabyte for each.  The same totals come
out in words of sixty-four bits whenever they fit into one.
-/

namespace FleetDashboard
namespace Capacity

open Metrics

/-! ## What a sample reports -/

/-- The sample reports a positive whole number. -/
def Contributes
    (sample : Sample) : Prop :=
  ∃ value, readWholeNumber sample.value = some value ∧ 0 < value

/-- The whole number that a sample reports, if it is positive, and nothing otherwise. -/
def amount
    (sample : Sample) : Nat :=
  ((readWholeNumber sample.value).getD 0).toNat

theorem contributes_iff
    {sample : Sample} :
    Contributes sample ↔ 0 < amount sample := by
  rw [Contributes, amount]
  cases readWholeNumber sample.value with
  | none => simp
  | some value => simp

instance : DecidablePred Contributes :=
  fun _ => decidable_of_iff _ contributes_iff.symm

/-- The positive whole numbers that samples report, in order. -/
def amounts
    (samples : List Sample) : List Nat :=
  (samples.filter Contributes).map amount

/-- A whole number that is read has sixty-four bits. -/
theorem readWholeNumber_bounds
    {raw : String}
    {value : Int}
    (read : readWholeNumber raw = some value) :
    -2 ^ 63 ≤ value ∧ value < 2 ^ 63 := by
  rw [readWholeNumber] at read
  cases numeral : Text.readInt 64 (Text.trimBoth raw.toList) with
  | error fault =>
      rw [numeral] at read
      cases read
  | ok found =>
      rw [numeral] at read
      cases read
      exact Text.readInt_bounds numeral

theorem lt_of_mem_amounts
    {samples : List Sample}
    {value : Nat}
    (reported : value ∈ amounts samples) :
    value < 2 ^ 63 := by
  obtain ⟨sample, counted, rfl⟩ := List.mem_map.mp reported
  obtain ⟨value, read, positive⟩ := of_decide_eq_true (List.mem_filter.mp counted).2
  have bounds := readWholeNumber_bounds read
  rw [amount, read, Option.getD_some]
  omega

/-- Reading each sample and keeping the positive numbers gives what the samples report, in
any form in which the numbers are kept. -/
theorem filterMap_read_eq
    (form : Int → β)
    (samples : List Sample) :
    (samples.filterMap fun sample =>
        ((readWholeNumber sample.value).filter fun value => 0 < value).map form) =
      (amounts samples).map fun (value : Nat) => form value := by
  rw [amounts, List.map_map, ← List.filterMap_eq_filter, List.map_filterMap]
  refine List.filterMap_congr fun sample _ => ?_
  cases read : readWholeNumber sample.value with
  | none => simp [Option.guard, Contributes, read]
  | some value =>
      by_cases positive : 0 < value
      · have kept : ((value.toNat : Nat) : Int) = value := Int.toNat_of_nonneg positive.le
        simp [Option.guard, Contributes, amount, read, positive, kept]
      · simp [Option.guard, Contributes, read, positive, Int.not_lt.mp positive]

theorem positiveValues_eq
    (samples : List Sample) :
    positiveValues samples = amounts samples := by
  rw [positiveValues, filterMap_read_eq]
  simp

/-! ## Totals as sums -/

theorem sumOf_eq
    (measure : Nat → Nat)
    (values : List Nat) :
    sumOf measure values = (values.map measure).sum := by
  rw [sumOf, List.sum_eq_foldr, List.foldr_map]

/-- A figure over samples is the sum of what is measured of the positive whole numbers that
they report. -/
structure IsSumOf
    (measure : Nat → Nat)
    (figure : List Sample → Nat) : Prop where
  eq_sum : ∀ samples, figure samples = ((amounts samples).map measure).sum
  perm : ∀ left right, left.Perm right → figure left = figure right
  append : ∀ left right, figure (left ++ right) = figure left + figure right
  le_insert : ∀ before sample after,
    figure (before ++ after) ≤ figure (before ++ sample :: after)
  only_contributors : ∀ left right,
    left.filter Contributes = right.filter Contributes → figure left = figure right

theorem isSumOf
    (measure : Nat → Nat) :
    IsSumOf measure fun samples => sumOf measure (positiveValues samples) := by
  have eq_sum (samples : List Sample) :
      sumOf measure (positiveValues samples) = ((amounts samples).map measure).sum := by
    rw [positiveValues_eq, sumOf_eq]
  refine ⟨eq_sum, ?_, ?_, ?_, ?_⟩
  · intro left right rearranged
    rw [eq_sum, eq_sum]
    exact (((rearranged.filter _).map amount).map measure).sum_eq
  · intro left right
    rw [positiveValues_append, sumOf_append]
  · intro before sample after
    rw [← List.singleton_append, positiveValues_append, positiveValues_append,
      positiveValues_append, sumOf_append, sumOf_append, sumOf_append]
    omega
  · intro left right same
    rw [eq_sum, eq_sum, amounts, amounts, same]

/-! ## Whole gigabytes -/

/-- Rounding each value down to whole units does not exceed the exact sum. -/
theorem sum_div_mul_le
    (unit : Nat)
    (values : List Nat) :
    (values.map (· / unit)).sum * unit ≤ values.sum := by
  induction values with
  | nil => simp
  | cons value rest inductionHypothesis =>
      have rounded := Nat.div_mul_le_self value unit
      rw [List.map_cons, List.sum_cons, List.sum_cons, Nat.add_mul]
      omega

/-- Rounding each value down to whole units loses less than a unit for each. -/
theorem sum_add_length_le
    {unit : Nat}
    (positive : 0 < unit)
    (values : List Nat) :
    values.sum + values.length ≤ ((values.map (· / unit)).sum + values.length) * unit := by
  induction values with
  | nil => simp
  | cons value rest inductionHypothesis =>
      have rounded : value < value / unit * unit + unit := Nat.lt_div_mul_add positive
      simp only [List.map_cons, List.sum_cons, List.length_cons, Nat.add_mul] at *
      omega

/-- Whole gigabytes of samples: of the exact bytes less than a gigabyte is lost for each
sample that contributes. -/
def RoundsDown
    (samples : List Sample)
    (gigabytes : Nat) : Prop :=
  0 < (amounts samples).length →
    gigabytes * 2 ^ 30 ≤ (amounts samples).sum ∧
      (amounts samples).sum < (gigabytes + (amounts samples).length) * 2 ^ 30

theorem totalGigabytes_eq
    (samples : List Sample) :
    totalGigabytes samples = ((amounts samples).map (· / 2 ^ 30)).sum :=
  (isSumOf (· / bytesPerGigabyte)).eq_sum samples

theorem roundsDown_totalGigabytes
    (samples : List Sample) :
    RoundsDown samples (totalGigabytes samples) := by
  intro filled
  have lost := sum_add_length_le (Nat.two_pow_pos 30) (amounts samples)
  rw [totalGigabytes_eq]
  exact ⟨sum_div_mul_le _ _, by omega⟩

/-- A sample counts less than `2 ^ 33` gigabytes, so few samples do not leave a word. -/
theorem totalGigabytes_lt
    {samples : List Sample}
    (few : samples.length < 2 ^ 31) :
    totalGigabytes samples < 2 ^ 64 := by
  have each : ∀ gigabytes ∈ (amounts samples).map (· / 2 ^ 30), gigabytes ≤ 2 ^ 33 - 1 := by
    simp only [List.mem_map]
    rintro _ ⟨bytes, reported, rfl⟩
    have bounded := lt_of_mem_amounts reported
    omega
  have bounded := List.sum_le_card_nsmul _ _ each
  have fewer : (amounts samples).length ≤ samples.length := by
    rw [amounts, List.length_map]
    exact List.length_filter_le ..
  rw [← totalGigabytes_eq, List.length_map, smul_eq_mul] at bounded
  omega

/-! ## Words of sixty-four bits -/

/-- The word of a natural number that fits into one. -/
def word?
    (value : Nat) : Option UInt64 :=
  if value < 2 ^ 64 then some (.ofNat value) else none

/-- The sum of two words, which fails if it carries beyond a word. -/
def addWords
    (left right : UInt64) : Option UInt64 :=
  if left.toNat + right.toNat < 2 ^ 64 then some (left + right) else none

/-- The sum of words, added up one after the other. -/
def wordSum
    (values : List UInt64) : Option UInt64 :=
  values.foldlM addWords 0

/-- The positive whole numbers among samples, as words with a sign. -/
def positiveWords
    (samples : List Sample) : List Int64 :=
  samples.filterMap fun sample =>
    ((readWholeNumber sample.value).map Int64.ofInt).filter fun value => 0 < value

/-- The sum of the positive whole numbers among samples, in words. -/
def totalInWords
    (samples : List Sample) : Option UInt64 :=
  wordSum ((positiveWords samples).map Int64.toUInt64)

/-- The sum in whole gigabytes, in words.  The division is that of words with a sign. -/
def totalGigabytesInWords
    (samples : List Sample) : Option UInt64 :=
  wordSum ((positiveWords samples).map fun bytes => (bytes / (1024 * 1024 * 1024)).toUInt64)

theorem addWords_eq
    (left right : UInt64) :
    addWords left right = word? (left.toNat + right.toNat) := by
  rw [addWords, word?]
  split
  · rw [UInt64.ofNat_add, UInt64.ofNat_toNat, UInt64.ofNat_toNat]
  · rfl

theorem wordSum_eq
    (values : List UInt64) :
    wordSum values = word? (values.map UInt64.toNat).sum := by
  have onTop (start : UInt64) :
      values.foldlM addWords start = word? (start.toNat + (values.map UInt64.toNat).sum) := by
    induction values generalizing start with
    | nil => simp [word?, start.toNat_lt]
    | cons value rest inductionHypothesis =>
        rw [List.foldlM_cons, addWords_eq, List.map_cons, List.sum_cons, ← Nat.add_assoc]
        by_cases fits : start.toNat + value.toNat < 2 ^ 64
        · rw [word?, if_pos fits, Option.bind_eq_bind, Option.bind_some, inductionHypothesis,
            UInt64.toNat_ofNat_of_lt' fits]
        · -- what does not fit on the way does not fit in the end
          have beyond : ¬start.toNat + value.toNat + (rest.map UInt64.toNat).sum < 2 ^ 64 := by
            omega
          rw [word?, word?, if_neg fits, if_neg beyond]
          rfl
  have whole := onTop 0
  rwa [UInt64.toNat_zero, Nat.zero_add] at whole

section Word

variable
  {value : Nat}
  (small : value < 2 ^ 63)

include small

theorem toInt_ofInt_natCast :
    (Int64.ofInt value).toInt = value :=
  Int64.toInt_ofInt_of_le (by omega) (by omega)

theorem toNat_toUInt64_ofInt :
    (Int64.ofInt value).toUInt64.toNat = value := by
  have signed := toInt_ofInt_natCast small
  have nonnegative : 0 ≤ Int64.ofInt value := by
    rw [Int64.le_iff_toInt_le, signed]
    exact Int.natCast_nonneg value
  rw [Int64.toNat_toUInt64_of_le nonnegative, Int64.toNatClampNeg, signed, Int.toNat_natCast]

theorem ofInt_div_gigabyte :
    Int64.ofInt value / (1024 * 1024 * 1024) = Int64.ofInt ((value / 2 ^ 30 : Nat) : Int) := by
  have unit : (1024 * 1024 * 1024 : Int64).toInt = 2 ^ 30 := by decide
  have notLeast : Int64.ofInt value ≠ Int64.minValue := by
    intro same
    have signed := congrArg Int64.toInt same
    rw [toInt_ofInt_natCast small, Int64.toInt_minValue] at signed
    omega
  rw [← Int64.toInt_inj, Int64.toInt_div_of_ne_left _ _ notLeast, unit,
    toInt_ofInt_natCast small, toInt_ofInt_natCast (by omega),
    Int.tdiv_eq_ediv_of_nonneg (Int.natCast_nonneg value)]
  omega

end Word

theorem positiveWords_eq
    (samples : List Sample) :
    positiveWords samples = (amounts samples).map fun (value : Nat) => Int64.ofInt value := by
  rw [← filterMap_read_eq Int64.ofInt, positiveWords]
  refine List.filterMap_congr fun sample _ => ?_
  cases read : readWholeNumber sample.value with
  | none => rfl
  | some value =>
      have bounds := readWholeNumber_bounds read
      have sameSign : decide (0 < Int64.ofInt value) = decide (0 < value) := by
        rw [decide_eq_decide, Int64.lt_iff_toInt_lt,
          Int64.toInt_ofInt_of_le bounds.1 bounds.2]
        rfl
      rw [Option.map_some, Option.filter_some, Option.filter_some, sameSign]
      split <;> rfl

theorem totalInWords_eq
    (samples : List Sample) :
    totalInWords samples = word? (total samples) := by
  have exact : ∀ value ∈ amounts samples, (Int64.ofInt value).toUInt64.toNat = id value :=
    fun value reported => toNat_toUInt64_ofInt (lt_of_mem_amounts reported)
  rw [totalInWords, wordSum_eq, positiveWords_eq, List.map_map, List.map_map, total,
    (isSumOf id).eq_sum]
  exact congrArg (fun values => word? values.sum) (List.map_congr_left exact)

theorem totalGigabytesInWords_eq
    (samples : List Sample) :
    totalGigabytesInWords samples = word? (totalGigabytes samples) := by
  have exact : ∀ value ∈ amounts samples,
      (Int64.ofInt value / (1024 * 1024 * 1024)).toUInt64.toNat = value / 2 ^ 30 := by
    intro value reported
    have small := lt_of_mem_amounts reported
    rw [ofInt_div_gigabyte small, toNat_toUInt64_ofInt (by omega)]
  rw [totalGigabytesInWords, wordSum_eq, positiveWords_eq, List.map_map, List.map_map,
    totalGigabytes_eq]
  exact congrArg (fun values => word? values.sum) (List.map_congr_left exact)

/-! ## The totals -/

/-- Each total is the sum of the positive whole numbers that its own samples report, or of
their whole gigabytes.  It does not depend on the order of the samples, the totals of two
lists add up, a further sample never lowers a total, and samples that report no positive
whole number do not count.  The gigabytes fall short of the exact bytes by less than one for
each sample that contributes.  Words of sixty-four bits give the same totals exactly when
these fit, as gigabytes of fewer than `2 ^ 31` samples always do. -/
theorem ofSamples_additive
    (cpu memory storage : List Sample) :
    let capacity := ofSamples cpu memory storage
    (IsSumOf id (fun samples => (ofSamples samples memory storage).cpuCores) ∧
      IsSumOf (· / 2 ^ 30) (fun samples => (ofSamples cpu samples storage).memoryGigabytes) ∧
      IsSumOf (· / 2 ^ 30) fun samples => (ofSamples cpu memory samples).storageGigabytes) ∧
    (totalInWords cpu = word? capacity.cpuCores ∧
      totalGigabytesInWords memory = word? capacity.memoryGigabytes ∧
      totalGigabytesInWords storage = word? capacity.storageGigabytes) ∧
    (RoundsDown memory capacity.memoryGigabytes ∧
      RoundsDown storage capacity.storageGigabytes) ∧
    (memory.length < 2 ^ 31 → capacity.memoryGigabytes < 2 ^ 64) ∧
    (storage.length < 2 ^ 31 → capacity.storageGigabytes < 2 ^ 64) := by
  intro capacity
  exact ⟨⟨isSumOf id, isSumOf (· / 2 ^ 30), isSumOf (· / 2 ^ 30)⟩,
    ⟨totalInWords_eq cpu, totalGigabytesInWords_eq memory, totalGigabytesInWords_eq storage⟩,
    ⟨roundsDown_totalGigabytes memory, roundsDown_totalGigabytes storage⟩,
    totalGigabytes_lt, totalGigabytes_lt⟩

/-- Two of four samples count for the processors, in any order, and two samples of one and
a half gigabytes make two. -/
theorem sample_ofSamples_additive :
    let reporting (value : String) : Sample := ⟨[], ⟨.zero false, value⟩⟩
    let cpu := [reporting "32", reporting "-5", reporting "12", reporting "1.5"]
    let memory := [reporting "1610612736", reporting " 1610612736 "]
    let capacity := ofSamples cpu memory []
    capacity = ⟨44, 2, 0⟩ ∧ totalInWords cpu = some 44 ∧
    (cpu.Perm cpu.reverse ∧ (ofSamples cpu.reverse memory []).cpuCores = capacity.cpuCores) ∧
    (cpu.filter Contributes = [reporting "32", reporting "12"].filter Contributes ∧
      capacity.cpuCores = (ofSamples [reporting "32", reporting "12"] memory []).cpuCores) ∧
    (0 < (amounts memory).length ∧ capacity.memoryGigabytes * 2 ^ 30 ≤ (amounts memory).sum ∧
      (amounts memory).sum < (capacity.memoryGigabytes + (amounts memory).length) * 2 ^ 30) ∧
    (memory.length < 2 ^ 31 ∧ capacity.memoryGigabytes < 2 ^ 64) ∧
    ([] : List Sample).length < 2 ^ 31 ∧ capacity.storageGigabytes < 2 ^ 64 := by
  intro reporting cpu memory capacity
  obtain ⟨⟨cores, _, _⟩, ⟨words, _, _⟩, ⟨rounds, _⟩, memoryFits, storageFits⟩ :=
    ofSamples_additive cpu memory []
  have found : capacity = ⟨44, 2, 0⟩ := by decide +kernel
  have rearranged : cpu.Perm cpu.reverse := (List.reverse_perm cpu).symm
  have same : cpu.filter Contributes =
      [reporting "32", reporting "12"].filter Contributes := by
    decide +kernel
  have filled : 0 < (amounts memory).length := by decide +kernel
  refine ⟨found, ?_, ⟨rearranged, (cores.perm _ _ rearranged).symm⟩,
    ⟨same, cores.only_contributors _ _ same⟩, ⟨filled, rounds filled⟩,
    ⟨by decide, memoryFits (by decide)⟩, by decide, storageFits (by decide)⟩
  rw [words]
  decide +kernel

end Capacity
end FleetDashboard
