import FleetDashboard.Proofs.Number.FixedText
import FleetDashboard.Proofs.Number.Hundredfold
import FleetDashboard.Stack.Summary

/-!
# Shares beyond the range of numbers

The load of a cluster is a finite number that has been read, and is shown as a decimal.
The shares of its memory and its disks are ratios of two such numbers.  A total has to be
positive, but it may be so small beside its part that the share in percent lies beyond the
range of numbers; the share is then shown by the word for an infinite number.
-/

namespace FleetDashboard

open Metrics Number

namespace StackUtilization

/-- A share that is unknown or a decimal with two places. -/
def IsShare
    (text : String) : Prop :=
  text = "" ∨ IsFixedDecimal 2 text

/-- A share that is shown: unknown, or a decimal with two places and its unit. -/
def IsShownShare
    (text : String) : Prop :=
  text = "" ∨ ∃ share, IsFixedDecimal 2 share ∧ text = share ++ " %"

/-- The word for an infinite number is no share. -/
theorem not_isShare_infinite
    (negative : Bool) :
    ¬IsShare (shareText (.infinite negative)) := by
  rintro (empty | decimal)
  · exact Binary64.fixedText_ne_empty 2 _ empty
  · exact Bool.false_ne_true ((Binary64.isFixedDecimal_fixedText_iff 2 _).mp decimal)

/-- A share is shown with its unit unless it is unknown. -/
theorem isShownShare_withUnit_iff
    (share : String) :
    IsShownShare (StackSummary.withUnit share) ↔ IsShare share := by
  rw [StackSummary.withUnit]
  split_ifs with unknown
  · rw [String.isEmpty_iff] at unknown
    exact iff_of_true (.inl unknown) (.inl unknown)
  · have filled : share ≠ "" := by simpa using unknown
    constructor
    · rintro (same | ⟨other, decimal, same⟩)
      · simp at same
      · rw [String.append_left_inj] at same
        exact .inr (same ▸ decimal)
    · rintro (same | decimal)
      · exact absurd same filled
      · exact .inr ⟨share, decimal, rfl⟩

/-- The part is so much larger than its positive total that the share in percent lies
beyond the range of numbers. -/
def Overwhelms
    (part total : Option Binary64) : Prop :=
  ∃ whole, total = some whole ∧ 0 < whole.toRat ∧
    Binary64.ratioLimit * whole.toRat < |(part.getD (.zero false)).toRat|

theorem isFinite_of_firstValue
    {samples : List Sample}
    {cluster : String}
    {metric : Option String}
    {value : Binary64}
    (first : firstValue samples cluster metric = some value) :
    value.isFinite = true := by
  obtain ⟨sample, _, read⟩ := Option.bind_eq_some_iff.mp first
  exact isFinite_of_readValue read

theorem isFinite_getD_firstValue
    (samples : List Sample)
    (cluster : String)
    (metric : Option String) :
    ((firstValue samples cluster metric).getD (.zero false)).isFinite = true := by
  cases first : firstValue samples cluster metric with
  | none => rfl
  | some value => exact isFinite_of_firstValue first

/-- A load is unknown or a decimal. -/
theorem isShare_loadText_firstValue
    (samples : List Sample)
    (cluster : String)
    (metric : Option String) :
    IsShare (loadText (firstValue samples cluster metric)) := by
  cases first : firstValue samples cluster metric with
  | none => exact .inl rfl
  | some load =>
      exact .inr ((Binary64.isFixedDecimal_fixedText_iff 2 load).mpr (isFinite_of_firstValue first))

/-- The ratio of a finite part and a finite positive total is the exact one, rounded. -/
theorem rounds_ratio
    {part whole : Binary64}
    (partFinite : part.isFinite = true)
    (wholeFinite : whole.isFinite = true)
    (above : 0 < whole.toRat) :
    Binary64.Rounds (part.toRat / whole.toRat) (part.div whole) := by
  obtain ⟨partNegative, partSignificand, partExponent, rfl⟩ :=
    Binary64.exists_finite_of_isFinite partFinite
  obtain ⟨negative, significand, exponent, rfl⟩ :=
    Binary64.exists_finite_of_isFinite wholeFinite
  exact Binary64.rounds_div _ _ _ _ _ _ ((Binary64.toRat_pos_iff ..).mp above).2

/-- A share of a positive total is a percentage of their ratio. -/
theorem shareOf_of_positive
    {complement : Bool}
    {part : Option Binary64}
    {whole : Binary64}
    (wholeFinite : whole.isFinite = true)
    (above : 0 < whole.toRat) :
    shareOf complement part (some whole) =
      shareText (.percent complement ((part.getD (.zero false)).div whole)) :=
  if_pos ((Binary64.isPositive_iff wholeFinite).mpr above)

/-- A share of any other total is unknown. -/
theorem shareOf_of_not_positive
    {complement : Bool}
    {part : Option Binary64}
    {whole : Binary64}
    (wholeFinite : whole.isFinite = true)
    (notAbove : ¬0 < whole.toRat) :
    shareOf complement part (some whole) = "" :=
  if_neg (mt (Binary64.isPositive_iff wholeFinite).mp notAbove)

/-- A part overwhelms a positive total when their ratio is beyond the limit. -/
theorem overwhelms_iff
    {part : Option Binary64}
    {whole : Binary64}
    (above : 0 < whole.toRat) :
    Overwhelms part (some whole) ↔
      Binary64.ratioLimit < |(part.getD (.zero false)).toRat / whole.toRat| := by
  rw [abs_div, abs_of_pos above, lt_div_iff₀ above]
  simp [Overwhelms, above]

section Share

variable
  {part total : Option Binary64}
  (partFinite : (part.getD (.zero false)).isFinite = true)
  (totalFinite : ∀ whole, total = some whole → whole.isFinite = true)

include partFinite totalFinite

/-- A share is unknown or a decimal exactly when no part overwhelms its total. -/
theorem isShare_shareOf_iff
    (complement : Bool) :
    IsShare (shareOf complement part total) ↔ ¬Overwhelms part total := by
  rcases total with - | whole
  · exact iff_of_true (.inl rfl) nofun
  have wholeFinite := totalFinite whole rfl
  by_cases above : 0 < whole.toRat
  · have rounds := rounds_ratio partFinite wholeFinite above
    rw [overwhelms_iff above, not_lt, ← rounds.isFinite_percent_iff complement,
      shareOf_of_positive wholeFinite above, IsShare, shareText,
      Binary64.isFixedDecimal_fixedText_iff]
    exact or_iff_right (Binary64.fixedText_ne_empty 2 _)
  · refine iff_of_true (.inl (shareOf_of_not_positive wholeFinite above)) ?_
    rintro ⟨_, ⟨⟩, alsoAbove, _⟩
    exact above alsoAbove

/-- A share beyond the range is shown by a word, with the sign of the part for the share
itself and with the other one for its complement. -/
theorem shareOf_of_overwhelms
    (complement : Bool)
    (overwhelms : Overwhelms part total) :
    shareOf complement part total =
      if complement ^^ decide ((part.getD (.zero false)).toRat < 0) then "-inf" else "inf" := by
  obtain ⟨whole, rfl, above, _⟩ := id overwhelms
  have wholeFinite := totalFinite whole rfl
  have rounds := rounds_ratio partFinite wholeFinite above
  have beyond := (overwhelms_iff above).mp overwhelms
  have sign : (part.getD (.zero false)).toRat / whole.toRat < 0 ↔
      (part.getD (.zero false)).toRat < 0 := by
    rw [div_lt_iff₀ above, zero_mul]
  rw [shareOf_of_positive wholeFinite above, shareText, rounds.percent_of_beyond beyond,
    Binary64.fixedText_infinite]
  simp only [sign]

end Share

/-- The load of a cluster is unknown or a decimal with two places, and so is its field of a
card, with its unit.  The same holds of the share of memory exactly when the free memory
does not overwhelm the total, and of the share of the disks exactly when what is used does
not overwhelm their capacity.  A share beyond the range is not unknown, either: it is shown
by the word for an infinite number. -/
theorem ofSamples_decimal_iff
    (cluster : String)
    (memoryDisk cpu : List Sample)
    (record : Cluster) :
    let shares := ofSamples cluster memoryDisk cpu
    let card := StackSummary.ofCluster record shares
    let free := firstValue memoryDisk cluster (some memoryFree)
    let memory := firstValue memoryDisk cluster (some memoryTotal)
    let used := firstValue memoryDisk cluster (some diskUsed)
    let capacity := firstValue memoryDisk cluster (some diskCapacity)
    (IsShare shares.cpu ∧ IsShownShare card.cpu) ∧
    ((IsShare shares.memory ↔ ¬Overwhelms free memory) ∧
      (IsShownShare card.memory ↔ ¬Overwhelms free memory) ∧
      (Overwhelms free memory →
        shares.memory = if (free.getD (.zero false)).toRat < 0 then "inf" else "-inf")) ∧
    (IsShare shares.disk ↔ ¬Overwhelms used capacity) ∧
    (IsShownShare card.storage ↔ ¬Overwhelms used capacity) ∧
    (Overwhelms used capacity →
      shares.disk = if (used.getD (.zero false)).toRat < 0 then "-inf" else "inf") := by
  intro shares card free memory used capacity
  have cpuShare : IsShare shares.cpu := isShare_loadText_firstValue cpu cluster none
  have memoryShare : IsShare shares.memory ↔ ¬Overwhelms free memory :=
    isShare_shareOf_iff (isFinite_getD_firstValue ..) (fun _ => isFinite_of_firstValue) true
  have diskShare : IsShare shares.disk ↔ ¬Overwhelms used capacity :=
    isShare_shareOf_iff (isFinite_getD_firstValue ..) (fun _ => isFinite_of_firstValue) false
  refine ⟨⟨cpuShare, (isShownShare_withUnit_iff _).mpr cpuShare⟩,
    ⟨memoryShare, (isShownShare_withUnit_iff _).trans memoryShare, ?_⟩,
    diskShare, (isShownShare_withUnit_iff _).trans diskShare, ?_⟩
  · intro overwhelms
    have word := shareOf_of_overwhelms (isFinite_getD_firstValue ..)
      (fun _ => isFinite_of_firstValue) true overwhelms
    simp only [Bool.true_xor, Bool.not_eq_true', decide_eq_false_iff_not, ite_not] at word
    exact word
  · intro overwhelms
    have word := shareOf_of_overwhelms (isFinite_getD_firstValue ..)
      (fun _ => isFinite_of_firstValue) false overwhelms
    simp only [Bool.false_xor, decide_eq_true_eq] at word
    exact word

/-- A sample of a metric of a cluster. -/
def reading
    (cluster metric value : String) : Sample :=
  ⟨[(Labels.metricName, metric), (Labels.clusterName, cluster)], ⟨.zero false, value⟩⟩

/-- A large amount overwhelms a total of a tenth of a byte, and not one of two hundred. -/
theorem sample_ofSamples_decimal :
    let memoryDisk :=
      [reading "c1" memoryFree "-1e308", reading "c1" memoryTotal "0.1",
        reading "c1" diskUsed "25", reading "c1" diskCapacity "200"]
    let free := firstValue memoryDisk "c1" (some memoryFree)
    let memory := firstValue memoryDisk "c1" (some memoryTotal)
    let used := firstValue memoryDisk "c1" (some diskUsed)
    let capacity := firstValue memoryDisk "c1" (some diskCapacity)
    (Overwhelms free memory ∧
      (ofSamples "c1" memoryDisk []).memory =
        if (free.getD (.zero false)).toRat < 0 then "inf" else "-inf") ∧
      ¬Overwhelms used capacity ∧ IsShare (ofSamples "c1" memoryDisk []).disk := by
  intro memoryDisk free memory used capacity
  obtain ⟨_, ⟨memoryShare, _, word⟩, diskShare, _⟩ :=
    ofSamples_decimal_iff "c1" memoryDisk [] ⟨"c1", "", "", "", .running, ⟨0, 0⟩⟩
  have memoryShown : (ofSamples "c1" memoryDisk []).memory = "inf" := by decide +kernel
  have diskShown : (ofSamples "c1" memoryDisk []).disk = shareText (.nearest false 25 2) := by
    decide +kernel
  -- what is shown tells which side of the limit the ratio is on
  have overwhelms : Overwhelms free memory := by
    refine Classical.not_not.mp (mt memoryShare.mpr ?_)
    rw [memoryShown]
    exact not_isShare_infinite false
  have isShare : IsShare (ofSamples "c1" memoryDisk []).disk := by
    rw [diskShown]
    exact .inr ((Binary64.isFixedDecimal_fixedText_iff 2 _).mpr (by decide +kernel))
  exact ⟨⟨overwhelms, word overwhelms⟩, diskShare.mp isShare, isShare⟩

/-- Finite numbers, each read without complaint, are shown as infinite shares. -/
theorem ratio_shown_as_infinite :
    let memoryDisk :=
      [reading "c1" memoryFree "1e308", reading "c1" memoryTotal "0.1",
        reading "c1" diskUsed "1e308", reading "c1" diskCapacity "0.1"]
    let shares := ofSamples "c1" memoryDisk []
    (∀ sample ∈ memoryDisk, ((readValue sample.value).map Binary64.isFinite) = some true) ∧
      shares.memory = "-inf" ∧ shares.disk = "inf" ∧ ¬IsShare shares.memory ∧
      ¬IsShare shares.disk := by
  intro memoryDisk shares
  have memoryShown : shares.memory = "-inf" := by decide +kernel
  have diskShown : shares.disk = "inf" := by decide +kernel
  refine ⟨by decide +kernel, memoryShown, diskShown, ?_, ?_⟩
  · rw [memoryShown]
    exact not_isShare_infinite true
  · rw [diskShown]
    exact not_isShare_infinite false

end StackUtilization
end FleetDashboard
