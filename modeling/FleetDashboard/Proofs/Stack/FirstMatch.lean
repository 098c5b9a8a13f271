import FleetDashboard.Proofs.Stack.Share

/-!
# First samples

The shares of a cluster depend on its own samples alone, and among these on the first
sample of each metric.  A later sample never stands in for a first one that cannot be read.
-/

namespace FleetDashboard

open Metrics Number

namespace StackUtilization

/-- The sample is about a cluster and, if one is named, about a metric. -/
def Concerns
    (cluster : String)
    (metric : Option String)
    (sample : Sample) : Prop :=
  sample.cluster? = some cluster ∧ ∀ name, metric = some name → sample.metric? = some name

theorem isAbout_iff
    {cluster : String}
    {metric : Option String}
    {sample : Sample} :
    isAbout cluster metric sample = true ↔ Concerns cluster metric sample := by
  cases metric <;> simp [isAbout, Concerns]

instance
    (cluster : String)
    (metric : Option String) :
    DecidablePred (Concerns cluster metric) :=
  fun _ => decidable_of_iff _ isAbout_iff

/-- The first sample of a list about a cluster and a metric. -/
def IsFirst
    (cluster : String)
    (metric : Option String)
    (samples : List Sample)
    (sample : Sample) : Prop :=
  ∃ before after, samples = before ++ sample :: after ∧ Concerns cluster metric sample ∧
    ∀ earlier ∈ before, ¬Concerns cluster metric earlier

/-- The first sample about a cluster and a metric is missing or denotes no number, whatever
comes after it. -/
def Unmeasured
    (cluster : String)
    (metric : Option String)
    (samples : List Sample) : Prop :=
  ∀ sample, IsFirst cluster metric samples sample → readValue sample.value = none

/-- The lists have the same samples of each cluster and metric, in the same order.  Samples
of different clusters or metrics may be interleaved in any way, and those without one of
the labels do not matter. -/
def AlikeByPair
    (left right : List Sample) : Prop :=
  ∀ cluster metric,
    left.filter (Concerns cluster (some metric)) = right.filter (Concerns cluster (some metric))

/-- The lists have the same samples of each cluster, in the same order. -/
def AlikeByCluster
    (left right : List Sample) : Prop :=
  ∀ cluster, left.filter (Concerns cluster none) = right.filter (Concerns cluster none)

/-- An earlier sample has the same cluster and the same metric. -/
def RepeatsPair
    (before : List Sample)
    (sample : Sample) : Prop :=
  ∃ earlier ∈ before, earlier.cluster? = sample.cluster? ∧ earlier.metric? = sample.metric?

/-- An earlier sample has the same cluster. -/
def RepeatsCluster
    (before : List Sample)
    (sample : Sample) : Prop :=
  ∃ earlier ∈ before, earlier.cluster? = sample.cluster?

section Swap

variable
  {left right : Sample}
  (before after : List Sample)

theorem filter_swap
    {holds : Sample → Prop}
    [DecidablePred holds]
    (notBoth : holds left → ¬holds right) :
    (before ++ left :: right :: after).filter holds =
      (before ++ right :: left :: after).filter holds := by
  simp only [List.filter_append, List.filter_cons, decide_eq_true_eq]
  by_cases leftHolds : holds left
  · simp [leftHolds, notBoth leftHolds]
  · simp [leftHolds]

/-- Neighbours of different pairs may change places. -/
theorem AlikeByPair.swap
    (different : left.cluster? ≠ right.cluster? ∨ left.metric? ≠ right.metric?) :
    AlikeByPair (before ++ left :: right :: after) (before ++ right :: left :: after) := by
  intro cluster metric
  refine filter_swap before after fun leftConcerns rightConcerns => ?_
  rcases different with otherCluster | otherMetric
  · exact otherCluster (leftConcerns.1.trans rightConcerns.1.symm)
  · exact otherMetric ((leftConcerns.2 metric rfl).trans (rightConcerns.2 metric rfl).symm)

/-- Neighbours of different clusters may change places. -/
theorem AlikeByCluster.swap
    (different : left.cluster? ≠ right.cluster?) :
    AlikeByCluster (before ++ left :: right :: after) (before ++ right :: left :: after) :=
  fun _ => filter_swap before after fun leftConcerns rightConcerns =>
    different (leftConcerns.1.trans rightConcerns.1.symm)

end Swap

theorem RepeatsPair.exists_concerns
    {before : List Sample}
    {sample : Sample}
    (repeats : RepeatsPair before sample)
    {cluster : String}
    {metric : Option String}
    (concerns : Concerns cluster metric sample) :
    ∃ earlier ∈ before, Concerns cluster metric earlier := by
  obtain ⟨earlier, member, sameCluster, sameMetric⟩ := repeats
  rw [Concerns, ← sameCluster, ← sameMetric] at concerns
  exact ⟨earlier, member, concerns⟩

theorem RepeatsCluster.exists_concerns
    {before : List Sample}
    {sample : Sample}
    (repeats : RepeatsCluster before sample)
    {cluster : String}
    (concerns : Concerns cluster none sample) :
    ∃ earlier ∈ before, Concerns cluster none earlier := by
  obtain ⟨earlier, member, sameCluster⟩ := repeats
  exact ⟨earlier, member, sameCluster.trans concerns.1, nofun⟩

/-! ## The first value -/

section FirstValue

variable
  {cluster : String}
  {metric : Option String}

theorem find?_isAbout_eq_some_iff
    {samples : List Sample}
    {sample : Sample} :
    samples.find? (isAbout cluster metric) = some sample ↔
      IsFirst cluster metric samples sample := by
  rw [List.find?_eq_some_iff_append, isAbout_iff]
  constructor
  · rintro ⟨concerns, before, after, split, others⟩
    exact ⟨before, after, split, concerns, by simpa [← isAbout_iff] using others⟩
  · rintro ⟨before, after, split, concerns, others⟩
    exact ⟨concerns, before, after, split, by simpa [← isAbout_iff] using others⟩

/-- The first value is the number that the first sample denotes. -/
theorem firstValue_eq_some_iff
    {samples : List Sample}
    {value : Binary64} :
    firstValue samples cluster metric = some value ↔
      ∃ sample, IsFirst cluster metric samples sample ∧ readValue sample.value = some value := by
  simp only [firstValue, Option.bind_eq_some_iff, find?_isAbout_eq_some_iff]

theorem firstValue_of_isFirst
    {samples : List Sample}
    {sample : Sample}
    (first : IsFirst cluster metric samples sample) :
    firstValue samples cluster metric = readValue sample.value := by
  rw [firstValue, find?_isAbout_eq_some_iff.mpr first, Option.bind_some]

theorem firstValue_eq_none_iff
    {samples : List Sample} :
    firstValue samples cluster metric = none ↔ Unmeasured cluster metric samples := by
  simp only [firstValue, Option.bind_eq_none_iff, find?_isAbout_eq_some_iff, Unmeasured]

/-- Only the samples about the cluster and the metric matter, in their order. -/
theorem firstValue_congr
    {left right : List Sample}
    (alike : left.filter (Concerns cluster metric) = right.filter (Concerns cluster metric)) :
    firstValue left cluster metric = firstValue right cluster metric := by
  have about : isAbout cluster metric = fun sample => decide (Concerns cluster metric sample) := by
    funext sample
    rw [Bool.eq_iff_iff, isAbout_iff, decide_eq_true_iff]
  rw [firstValue, firstValue, about, ← List.head?_filter, ← List.head?_filter, alike]

/-- The samples of other clusters do not matter. -/
theorem firstValue_filter_cluster
    (samples : List Sample) :
    firstValue (samples.filter (·.cluster? = some cluster)) cluster metric =
      firstValue samples cluster metric := by
  refine firstValue_congr ?_
  rw [List.filter_filter]
  refine List.filter_congr fun sample _ => ?_
  by_cases concerns : Concerns cluster metric sample
  · simp [concerns, concerns.1]
  · simp [concerns]

/-- A sample does not matter if it concerns something else or is not the first that does. -/
theorem firstValue_append_cons
    {before : List Sample}
    {sample : Sample}
    (repeated :
      Concerns cluster metric sample → ∃ earlier ∈ before, Concerns cluster metric earlier)
    (after : List Sample) :
    firstValue (before ++ sample :: after) cluster metric =
      firstValue (before ++ after) cluster metric := by
  simp only [firstValue, List.find?_append]
  -- if the sample concerns them, the search has ended before it comes to the sample
  by_cases concerns : Concerns cluster metric sample
  · obtain ⟨earlier, member, alsoConcerns⟩ := repeated concerns
    obtain ⟨found, first⟩ := Option.isSome_iff_exists.mp
      (List.find?_isSome.mpr ⟨earlier, member, isAbout_iff.mpr alsoConcerns⟩)
    rw [first, Option.some_or, Option.some_or]
  · rw [List.find?_cons_of_neg (mt isAbout_iff.mp concerns)]

end FirstValue

/-! ## Shares -/

/-- What is unknown counts as nothing, in the part and in the total. -/
theorem shareOf_eq_getD
    (complement : Bool)
    (part total : Option Binary64) :
    shareOf complement part total =
      shareOf complement (some (part.getD (.zero false))) (some (total.getD (.zero false))) := by
  cases total with
  | none => rfl
  | some whole => rfl

/-- The shares depend on the first values alone, and memory and disks only on what they count
as. -/
theorem ofSamples_congr
    {cluster : String}
    {memoryDisk memoryDisk' cpu cpu' : List Sample}
    (sameMemoryDisk :
      ∀ metric, (firstValue memoryDisk cluster (some metric)).getD (.zero false) =
        (firstValue memoryDisk' cluster (some metric)).getD (.zero false))
    (sameCpu : firstValue cpu cluster none = firstValue cpu' cluster none) :
    ofSamples cluster memoryDisk cpu = ofSamples cluster memoryDisk' cpu' := by
  have sameShare (complement : Bool) (part total : String) :
      shareOf complement (firstValue memoryDisk cluster (some part))
          (firstValue memoryDisk cluster (some total)) =
        shareOf complement (firstValue memoryDisk' cluster (some part))
          (firstValue memoryDisk' cluster (some total)) := by
    rw [shareOf_eq_getD, sameMemoryDisk, sameMemoryDisk, ← shareOf_eq_getD]
  simp only [ofSamples, sameShare, sameCpu]

/-- A load is known exactly when the first sample denotes a number. -/
theorem loadText_ne_empty_iff
    {cluster : String}
    {samples : List Sample} :
    loadText (firstValue samples cluster none) ≠ "" ↔
      ∃ sample value, IsFirst cluster none samples sample ∧
        readValue sample.value = some value := by
  rw [exists_comm]
  simp only [← firstValue_eq_some_iff]
  cases firstValue samples cluster none with
  | none => simp [loadText]
  | some load => simp [loadText, shareText, Binary64.fixedText_ne_empty]

section Share

variable
  {cluster : String}
  {samples : List Sample}
  (complement : Bool)
  (part : Option Binary64)
  (metric : String)

/-- A share is known exactly when the first sample of its total denotes a positive number,
whatever is known of the part. -/
theorem shareOf_ne_empty_iff :
    shareOf complement part (firstValue samples cluster (some metric)) ≠ "" ↔
      ∃ sample value, IsFirst cluster (some metric) samples sample ∧
        readValue sample.value = some value ∧ 0 < value.toRat := by
  rw [exists_comm]
  simp only [← and_assoc, exists_and_right, ← firstValue_eq_some_iff]
  cases total : firstValue samples cluster (some metric) with
  | none => simp [shareOf]
  | some whole =>
      have wholeFinite := isFinite_of_firstValue total
      by_cases above : 0 < whole.toRat
      · refine iff_of_true ?_ ⟨whole, rfl, above⟩
        rw [shareOf_of_positive wholeFinite above]
        exact Binary64.fixedText_ne_empty 2 _
      · refine iff_of_false (not_not.mpr (shareOf_of_not_positive wholeFinite above)) ?_
        rintro ⟨_, ⟨⟩, alsoAbove⟩
        exact above alsoAbove

/-- Nothing is none of any total, and its complement is the whole. -/
theorem shareOf_nothing
    (known : shareOf complement none (firstValue samples cluster (some metric)) ≠ "") :
    shareOf complement none (firstValue samples cluster (some metric)) =
      if complement then "100.00" else "0.00" := by
  obtain ⟨sample, whole, first, read, above⟩ := (shareOf_ne_empty_iff ..).mp known
  have total := firstValue_eq_some_iff.mpr ⟨sample, first, read⟩
  have wholeFinite := isFinite_of_firstValue total
  rw [total, shareOf_of_positive wholeFinite above, Option.getD_none,
    Binary64.zero_div_of_pos wholeFinite above]
  cases complement <;> decide +kernel

end Share

/-! ## Changes that do not matter -/

section Unchanged

variable
  {cluster : String}
  {memoryDisk memoryDisk' cpu cpu' : List Sample}

theorem ofSamples_filter_cluster :
    ofSamples cluster (memoryDisk.filter (·.cluster? = some cluster))
      (cpu.filter (·.cluster? = some cluster)) = ofSamples cluster memoryDisk cpu :=
  ofSamples_congr (fun _ => by rw [firstValue_filter_cluster]) (firstValue_filter_cluster cpu)

theorem ofSamples_alike
    (sameMemoryDisk : AlikeByPair memoryDisk memoryDisk')
    (sameCpu : AlikeByCluster cpu cpu') :
    ofSamples cluster memoryDisk' cpu' = ofSamples cluster memoryDisk cpu :=
  ofSamples_congr (fun metric => by rw [firstValue_congr (sameMemoryDisk cluster metric)])
    (firstValue_congr (sameCpu cluster).symm)

theorem ofSamples_repeatsPair
    {before : List Sample}
    {sample : Sample}
    (repeats : RepeatsPair before sample)
    (after : List Sample) :
    ofSamples cluster (before ++ sample :: after) cpu = ofSamples cluster (before ++ after) cpu :=
  ofSamples_congr (fun _ => by rw [firstValue_append_cons repeats.exists_concerns]) rfl

theorem ofSamples_repeatsCluster
    {before : List Sample}
    {sample : Sample}
    (repeats : RepeatsCluster before sample)
    (after : List Sample) :
    ofSamples cluster memoryDisk (before ++ sample :: after) =
      ofSamples cluster memoryDisk (before ++ after) :=
  ofSamples_congr (fun _ => rfl) (firstValue_append_cons repeats.exists_concerns after)

end Unchanged

/-! ## What is not measured -/

section Unmeasured

variable
  {cluster metric : String}
  {memoryDisk : List Sample}
  (unmeasured : Unmeasured cluster (some metric) memoryDisk)
  {zero : Sample}
  (concerns : Concerns cluster (some metric) zero)
  (nothing : zero.value = "0")

include unmeasured concerns nothing

/-- What is not measured may as well be measured as nothing. -/
theorem ofSamples_zero_cons
    (cpu : List Sample) :
    ofSamples cluster (zero :: memoryDisk) cpu = ofSamples cluster memoryDisk cpu := by
  refine ofSamples_congr (fun name => ?_) rfl
  by_cases same : name = metric
  · subst same
    have first : IsFirst cluster (some name) (zero :: memoryDisk) zero :=
      ⟨[], memoryDisk, rfl, concerns, nofun⟩
    have read : readValue "0" = some (.zero false) := by decide +kernel
    rw [firstValue_of_isFirst first, nothing, read, firstValue_eq_none_iff.mpr unmeasured]
    rfl
  · -- under any other metric the sample in front is passed over
    have other : ¬Concerns cluster (some name) zero := by
      intro alsoConcerns
      have sameMetric := (alsoConcerns.2 name rfl).symm.trans (concerns.2 metric rfl)
      exact same (Option.some.inj sameMetric)
    have skipped : firstValue ([] ++ zero :: memoryDisk) cluster (some name) =
        firstValue ([] ++ memoryDisk) cluster (some name) :=
      firstValue_append_cons (fun concerns => absurd concerns other) memoryDisk
    rw [List.nil_append, List.nil_append] at skipped
    rw [skipped]

end Unmeasured

/-! ## The shares of a cluster -/

/-- The shares of a cluster depend on its own samples alone.  Only the order within each
pair of cluster and metric matters, or within each cluster for the load, and only the first
sample of each: later ones may be put in, left out or changed.  Memory and disk are known
exactly when the first sample of the total denotes a positive number, and the load when the
first one denotes a number.  A first sample that denotes no number is not replaced by a later
one: the share of such a total is unknown, and such a part counts as nothing, as a missing
one does. -/
theorem ofSamples_first_match
    (cluster : String)
    (memoryDisk cpu : List Sample) :
    let shares := ofSamples cluster memoryDisk cpu
    ofSamples cluster (memoryDisk.filter (·.cluster? = some cluster))
      (cpu.filter (·.cluster? = some cluster)) = shares ∧
    (∀ memoryDisk' cpu', AlikeByPair memoryDisk memoryDisk' → AlikeByCluster cpu cpu' →
      ofSamples cluster memoryDisk' cpu' = shares) ∧
    (∀ before sample after, RepeatsPair before sample →
      ofSamples cluster (before ++ sample :: after) cpu =
        ofSamples cluster (before ++ after) cpu ∧
      ∀ point, ofSamples cluster (before ++ ⟨sample.labels, point⟩ :: after) cpu =
        ofSamples cluster (before ++ sample :: after) cpu) ∧
    (∀ before sample after, RepeatsCluster before sample →
      ofSamples cluster memoryDisk (before ++ sample :: after) =
        ofSamples cluster memoryDisk (before ++ after) ∧
      ∀ point, ofSamples cluster memoryDisk (before ++ ⟨sample.labels, point⟩ :: after) =
        ofSamples cluster memoryDisk (before ++ sample :: after)) ∧
    ((shares.memory ≠ "" ↔ ∃ sample value, IsFirst cluster (some memoryTotal) memoryDisk sample ∧
        readValue sample.value = some value ∧ 0 < value.toRat) ∧
      (shares.disk ≠ "" ↔ ∃ sample value, IsFirst cluster (some diskCapacity) memoryDisk sample ∧
        readValue sample.value = some value ∧ 0 < value.toRat) ∧
      (shares.cpu ≠ "" ↔ ∃ sample value, IsFirst cluster none cpu sample ∧
        readValue sample.value = some value)) ∧
    (∀ sample, readValue sample.value = none →
      (IsFirst cluster (some memoryTotal) memoryDisk sample → shares.memory = "") ∧
      (IsFirst cluster (some diskCapacity) memoryDisk sample → shares.disk = "") ∧
      (IsFirst cluster none cpu sample → shares.cpu = "")) ∧
    (∀ metric zero, Unmeasured cluster (some metric) memoryDisk →
      Concerns cluster (some metric) zero → zero.value = "0" →
        ofSamples cluster (zero :: memoryDisk) cpu = shares) ∧
    (Unmeasured cluster (some memoryFree) memoryDisk →
      shares.memory = "" ∨ shares.memory = "100.00") ∧
    (Unmeasured cluster (some diskUsed) memoryDisk →
      shares.disk = "" ∨ shares.disk = "0.00") := by
  intro shares
  refine ⟨ofSamples_filter_cluster, fun _ _ => ofSamples_alike, ?_, ?_,
    ⟨shareOf_ne_empty_iff .., shareOf_ne_empty_iff .., loadText_ne_empty_iff⟩, ?_, ?_, ?_, ?_⟩
  · intro before sample after repeats
    refine ⟨ofSamples_repeatsPair repeats after, fun point => ?_⟩
    have alsoRepeats : RepeatsPair before ⟨sample.labels, point⟩ := repeats
    rw [ofSamples_repeatsPair alsoRepeats, ofSamples_repeatsPair repeats]
  · intro before sample after repeats
    refine ⟨ofSamples_repeatsCluster repeats after, fun point => ?_⟩
    have alsoRepeats : RepeatsCluster before ⟨sample.labels, point⟩ := repeats
    rw [ofSamples_repeatsCluster alsoRepeats, ofSamples_repeatsCluster repeats]
  · intro sample unreadable
    simp only [shares, ofSamples]
    refine ⟨?_, ?_, ?_⟩ <;> intro first <;> rw [firstValue_of_isFirst first, unreadable] <;> rfl
  · intro metric zero unmeasured concerns nothing
    exact ofSamples_zero_cons unmeasured concerns nothing cpu
  · intro unmeasured
    simp only [shares, ofSamples, firstValue_eq_none_iff.mpr unmeasured]
    exact Classical.or_iff_not_imp_left.mpr (shareOf_nothing true memoryTotal)
  · intro unmeasured
    simp only [shares, ofSamples, firstValue_eq_none_iff.mpr unmeasured]
    exact Classical.or_iff_not_imp_left.mpr (shareOf_nothing false diskCapacity)

/-- Samples of two clusters change places, a second total and a second load are put in, and
the free memory that cannot be read counts as nothing. -/
theorem sample_ofSamples_first_match :
    let free := reading "c1" memoryFree "NaN"
    let total := reading "c1" memoryTotal "10"
    let other := reading "c2" memoryTotal "4"
    let memoryDisk := [free, other, total]
    let load := reading "c1" "" "high"
    let otherLoad := reading "c2" "" "7"
    let shares := ofSamples "c1" memoryDisk [load, otherLoad]
    (AlikeByPair memoryDisk [free, total, other] ∧
      AlikeByCluster [load, otherLoad] [otherLoad, load] ∧
      ofSamples "c1" [free, total, other] [otherLoad, load] = shares) ∧
    (RepeatsPair memoryDisk (reading "c1" memoryTotal "20") ∧
      ofSamples "c1" [free, other, total, reading "c1" memoryTotal "20"] [load, otherLoad] =
        shares) ∧
    (RepeatsCluster [load, otherLoad] (reading "c1" "" "8") ∧
      ofSamples "c1" memoryDisk [load, otherLoad, reading "c1" "" "8"] = shares) ∧
    (IsFirst "c1" none [load, otherLoad] load ∧ shares.cpu = "") ∧
    (Unmeasured "c1" (some memoryFree) memoryDisk ∧
      ofSamples "c1" (reading "c1" memoryFree "0" :: memoryDisk) [load, otherLoad] = shares ∧
      (shares.memory = "" ∨ shares.memory = "100.00")) ∧
    Unmeasured "c1" (some diskUsed) memoryDisk ∧
      (shares.disk = "" ∨ shares.disk = "0.00") := by
  intro free total other memoryDisk load otherLoad shares
  obtain ⟨_, alike, pair, cluster, _, unreadable, zero, memory, disk⟩ :=
    ofSamples_first_match "c1" memoryDisk [load, otherLoad]
  have alikeByPair : AlikeByPair memoryDisk [free, total, other] :=
    AlikeByPair.swap [free] [] (.inl (by decide))
  have alikeByCluster : AlikeByCluster [load, otherLoad] [otherLoad, load] :=
    AlikeByCluster.swap [] [] (by decide)
  have repeatsPair : RepeatsPair memoryDisk (reading "c1" memoryTotal "20") :=
    ⟨total, by simp [memoryDisk], rfl, rfl⟩
  have repeatsCluster : RepeatsCluster [load, otherLoad] (reading "c1" "" "8") :=
    ⟨load, by simp, rfl⟩
  have first : IsFirst "c1" none [load, otherLoad] load :=
    ⟨[], [otherLoad], rfl, ⟨rfl, nofun⟩, nofun⟩
  have unmeasuredFree : Unmeasured "c1" (some memoryFree) memoryDisk :=
    firstValue_eq_none_iff.mp (by decide +kernel)
  have unmeasuredUsed : Unmeasured "c1" (some diskUsed) memoryDisk :=
    firstValue_eq_none_iff.mp (by decide +kernel)
  refine ⟨⟨alikeByPair, alikeByCluster, alike _ _ alikeByPair alikeByCluster⟩,
    ⟨repeatsPair, ?_⟩, ⟨repeatsCluster, ?_⟩,
    ⟨first, (unreadable load (by decide +kernel)).2.2 first⟩,
    ⟨unmeasuredFree, ?_, memory unmeasuredFree⟩, unmeasuredUsed, disk unmeasuredUsed⟩
  · simpa [memoryDisk] using (pair memoryDisk _ [] repeatsPair).1
  · simpa using (cluster [load, otherLoad] _ [] repeatsCluster).1
  · exact zero memoryFree (reading "c1" memoryFree "0") unmeasuredFree
      ⟨rfl, by rintro _ ⟨⟩; rfl⟩ rfl

end StackUtilization
end FleetDashboard
