import FleetDashboard.Proofs.Cache.Timeline
import Mathlib.Logic.Function.Iterate

/-!
# Sleeping, one nanosecond at a time

A sleep finds the last purge of every janitor at once.  Here time passes one
nanosecond at a time, each janitor purges when it is due, and the outcome is the
same.  A janitor stands for the moments at which it is still due.
-/

namespace FleetDashboard

namespace Cache

/-- Two purges drop what the later of them drops. -/
theorem purge_purge
    (cache : Cache)
    (first second : Nat) :
    (cache.purge first).purge second = cache.purge (max first second) := by
  simp only [purge, List.filter_filter, Cache.mk.injEq, true_and]
  refine List.filter_congr fun entry _ => ?_
  simp only [CacheEntry.isLive, Nat.max_lt, Bool.decide_and, Bool.and_comm]

/-- The purge at the latest of some moments. -/
def purgeLatest
    (cache : Cache)
    (moments : List Nat) : Cache :=
  match moments.max? with
  | some moment => cache.purge moment
  | none => cache

theorem purgeLatest_of_max?_eq_some
    (cache : Cache)
    {moments : List Nat}
    {moment : Nat}
    (latest : moments.max? = some moment) :
    cache.purgeLatest moments = cache.purge moment := by
  rw [purgeLatest, latest]

/-- A purge at the latest of some moments is not noticed after a later purge. -/
theorem purge_purgeLatest
    (cache : Cache)
    {moments : List Nat}
    {finish : Nat}
    (earlier : ∀ moment ∈ moments, moment ≤ finish) :
    (cache.purgeLatest moments).purge finish = cache.purge finish := by
  cases latest : moments.max? with
  | none => rw [purgeLatest, latest]
  | some moment =>
      rw [purgeLatest_of_max?_eq_some cache latest, purge_purge,
        Nat.max_eq_right (earlier moment (List.max?_mem latest))]

end Cache

namespace Janitor

/-- The janitor will purge, or is to purge by now, at that moment. -/
def IsDueAt
    (janitor : Janitor)
    (moment : Nat) : Prop :=
  ∃ count, moment = janitor.next + count * janitor.period

variable {janitor : Janitor}

theorem next_le_of_isDueAt
    {moment : Nat}
    (due : janitor.IsDueAt moment) :
    janitor.next ≤ moment := by
  obtain ⟨count, rfl⟩ := due
  exact Nat.le_add_right _ _

theorem isDueAt_start_iff
    {now period moment : Nat} :
    (start now period).IsDueAt moment ↔
      ∃ count, moment = now + (count + 1) * max period shortestPeriod := by
  simp only [IsDueAt, start, Nat.add_mul, Nat.one_mul]
  refine exists_congr fun count => ?_
  omega

/-! ## Counting what is due -/

theorem dueBefore_eq_zero
    {moment : Nat}
    (notYet : moment ≤ janitor.next) :
    janitor.dueBefore moment = 0 := by
  rw [dueBefore, if_neg (Nat.not_lt.mpr notYet)]

theorem skipTo_eq_self
    {moment : Nat}
    (notYet : moment ≤ janitor.next) :
    janitor.skipTo moment = janitor := by
  simp [skipTo, dueBefore_eq_zero notYet]

/-- The purges before a moment are counted exactly. -/
theorem lt_dueBefore_iff
    (positive : 0 < janitor.period)
    {count moment : Nat} :
    count < janitor.dueBefore moment ↔ janitor.next + count * janitor.period < moment := by
  unfold dueBefore
  split
  · next late =>
      rw [Nat.lt_succ_iff, Nat.le_div_iff_mul_le positive]
      omega
  · next early =>
      have beyond : moment ≤ janitor.next + count * janitor.period := by omega
      simpa using beyond

theorem dueBefore_le_iff
    (positive : 0 < janitor.period)
    {count moment : Nat} :
    janitor.dueBefore moment ≤ count ↔ moment ≤ janitor.next + count * janitor.period := by
  rw [← Nat.not_lt, lt_dueBefore_iff positive, Nat.not_lt]

theorem le_next_skipTo
    (positive : 0 < janitor.period)
    (moment : Nat) :
    moment ≤ (janitor.skipTo moment).next :=
  (dueBefore_le_iff positive).mp (Nat.le_refl _)

/-- What is due after the purges before a moment is what was due from that moment
on. -/
theorem isDueAt_skipTo_iff
    (positive : 0 < janitor.period)
    {moment due : Nat} :
    (janitor.skipTo moment).IsDueAt due ↔ janitor.IsDueAt due ∧ moment ≤ due := by
  constructor
  · intro later
    refine ⟨?_, Nat.le_trans (le_next_skipTo positive moment) (next_le_of_isDueAt later)⟩
    obtain ⟨count, rfl⟩ := later
    refine ⟨janitor.dueBefore moment + count, ?_⟩
    simp only [skipTo, Nat.add_mul, Nat.add_assoc]
  · rintro ⟨⟨count, rfl⟩, notBefore⟩
    obtain ⟨rest, rfl⟩ := Nat.exists_eq_add_of_le ((dueBefore_le_iff positive).mpr notBefore)
    refine ⟨rest, ?_⟩
    simp only [skipTo, Nat.add_mul, Nat.add_assoc]

/-- Janitors of one period that are due at the same moments are the same. -/
theorem eq_of_isDueAt_iff
    {left right : Janitor}
    (samePeriod : left.period = right.period)
    (sameDue : ∀ due, left.IsDueAt due ↔ right.IsDueAt due) :
    left = right := by
  have leftNext : left.IsDueAt left.next := ⟨0, by simp⟩
  have rightNext : right.IsDueAt right.next := ⟨0, by simp⟩
  have sameNext : left.next = right.next :=
    Nat.le_antisymm (next_le_of_isDueAt ((sameDue _).mpr rightNext))
      (next_le_of_isDueAt ((sameDue _).mp leftNext))
  cases left
  cases right
  simp_all

/-- Skipping in two stages skips to the later of them. -/
theorem skipTo_skipTo
    (positive : 0 < janitor.period)
    (first second : Nat) :
    (janitor.skipTo first).skipTo second = janitor.skipTo (max first second) := by
  -- Both sides are known by what is still due; the counts of purges need not be compared.
  refine eq_of_isDueAt_iff rfl fun due => ?_
  have positiveAfter : 0 < (janitor.skipTo first).period := positive
  rw [isDueAt_skipTo_iff positiveAfter, isDueAt_skipTo_iff positive, isDueAt_skipTo_iff positive,
    and_assoc, Nat.max_le]

theorem next_skipTo_le_iff
    (positive : 0 < janitor.period)
    {moment : Nat} :
    (janitor.skipTo moment).next ≤ moment ↔ janitor.IsDueAt moment := by
  constructor
  · intro reached
    have exactly : (janitor.skipTo moment).next = moment :=
      Nat.le_antisymm reached (le_next_skipTo positive moment)
    have due : (janitor.skipTo moment).IsDueAt moment := ⟨0, by simp [exactly]⟩
    exact ((isDueAt_skipTo_iff positive).mp due).1
  · intro due
    exact next_le_of_isDueAt ((isDueAt_skipTo_iff positive).mpr ⟨due, Nat.le_refl _⟩)

theorem lastBefore?_eq_none
    {finish : Nat}
    (notYet : finish ≤ janitor.next) :
    janitor.lastBefore? finish = none := by
  rw [lastBefore?, dueBefore_eq_zero notYet]

/-- The last purge before a moment is the one that is less than a period away
from it. -/
theorem lastBefore?_eq_some_iff
    (positive : 0 < janitor.period)
    {finish moment : Nat} :
    janitor.lastBefore? finish = some moment ↔
      janitor.IsDueAt moment ∧ moment < finish ∧ finish ≤ moment + janitor.period := by
  have counted : janitor.lastBefore? finish = some moment ↔
      ∃ count, janitor.dueBefore finish = count + 1 ∧
        janitor.next + count * janitor.period = moment := by
    unfold lastBefore?
    cases janitor.dueBefore finish <;> simp
  have exact_iff
      (count : Nat) :
      janitor.dueBefore finish = count + 1 ↔
        janitor.next + count * janitor.period < finish ∧
          finish ≤ janitor.next + count * janitor.period + janitor.period := by
    rw [Nat.eq_iff_le_and_ge, Nat.succ_le_iff, lt_dueBefore_iff positive,
      dueBefore_le_iff positive, Nat.succ_mul, ← Nat.add_assoc, and_comm]
  rw [counted]
  constructor
  · rintro ⟨count, last, rfl⟩
    exact ⟨⟨count, rfl⟩, (exact_iff count).mp last⟩
  · rintro ⟨⟨count, rfl⟩, last⟩
    exact ⟨count, (exact_iff count).mpr last, rfl⟩

/-- A purge due at a moment is the last one before the next nanosecond. -/
theorem lastBefore?_succ_of_isDueAt
    (positive : 0 < janitor.period)
    {finish : Nat}
    (due : janitor.IsDueAt finish) :
    janitor.lastBefore? (finish + 1) = some finish := by
  rw [lastBefore?_eq_some_iff positive]
  exact ⟨due, Nat.lt_succ_self finish, by omega⟩

/-- A nanosecond without a purge leaves the last purge as it is. -/
theorem lastBefore?_succ_of_not_isDueAt
    (positive : 0 < janitor.period)
    {finish : Nat}
    (idle : ¬janitor.IsDueAt finish) :
    janitor.lastBefore? (finish + 1) = janitor.lastBefore? finish := by
  ext moment
  simp only [lastBefore?_eq_some_iff positive]
  refine and_congr_right fun due => ?_
  have notThen : moment ≠ finish := fun same => idle (same ▸ due)
  have notNext : moment + janitor.period ≠ finish := by
    rintro rfl
    obtain ⟨count, rfl⟩ := due
    exact idle ⟨count + 1, by rw [Nat.succ_mul, Nat.add_assoc]⟩
  omega

/-- The last purge of every janitor that has one before a moment. -/
def lastPurges
    (janitors : List Janitor)
    (finish : Nat) : List Nat :=
  janitors.filterMap (lastBefore? · finish)

theorem lt_of_mem_lastPurges
    {janitors : List Janitor}
    {finish moment : Nat}
    (member : moment ∈ lastPurges janitors finish) :
    moment < finish := by
  obtain ⟨janitor, _, last⟩ := List.mem_filterMap.mp member
  exact lt_of_lastBefore? last

theorem lastPurges_eq_nil
    {janitors : List Janitor}
    {finish : Nat}
    (notYet : ∀ janitor ∈ janitors, finish ≤ janitor.next) :
    lastPurges janitors finish = [] :=
  List.filterMap_eq_nil_iff.mpr fun janitor member => lastBefore?_eq_none (notYet janitor member)

theorem max?_lastPurges_succ
    {janitors : List Janitor}
    (positive : ∀ janitor ∈ janitors, 0 < janitor.period)
    {finish : Nat}
    (due : ∃ janitor ∈ janitors, janitor.IsDueAt finish) :
    (lastPurges janitors (finish + 1)).max? = some finish := by
  obtain ⟨janitor, member, isDue⟩ := due
  have last := lastBefore?_succ_of_isDueAt (positive janitor member) isDue
  rw [List.max?_eq_some_iff]
  exact ⟨List.mem_filterMap.mpr ⟨janitor, member, last⟩,
    fun moment isLast => Nat.le_of_lt_succ (lt_of_mem_lastPurges isLast)⟩

theorem lastPurges_succ
    {janitors : List Janitor}
    (positive : ∀ janitor ∈ janitors, 0 < janitor.period)
    {finish : Nat}
    (idle : ¬∃ janitor ∈ janitors, janitor.IsDueAt finish) :
    lastPurges janitors (finish + 1) = lastPurges janitors finish := by
  refine List.filterMap_congr fun janitor member => ?_
  exact lastBefore?_succ_of_not_isDueAt (positive janitor member)
    fun isDue => idle ⟨janitor, member, isDue⟩

end Janitor

namespace CacheTimeline

/-- One nanosecond passes: the janitors that are due purge, then the clock
moves. -/
def beat
    (timeline : CacheTimeline) : CacheTimeline :=
  { timeline.serveLate timeline.clock with clock := timeline.clock + 1 }

/-- Every janitor has a period. -/
def HasPeriods
    (timeline : CacheTimeline) : Prop :=
  ∀ janitor ∈ timeline.janitors, 0 < janitor.period

/-- A janitor is due. -/
def IsDue
    (timeline : CacheTimeline) : Prop :=
  ∃ janitor ∈ timeline.janitors, janitor.next ≤ timeline.clock

/-- Timelines with the same cache, clock and janitors are the same. -/
theorem eq_of_parts
    {left right : CacheTimeline}
    (sameCache : left.cache = right.cache)
    (sameClock : left.clock = right.clock)
    (sameJanitors : left.janitors = right.janitors) :
    left = right := by
  cases left
  cases right
  simp_all

variable {timeline : CacheTimeline}

/-! ## Late purges, one at a time -/

theorem serveLate_of_isDue
    (due : timeline.IsDue)
    (now : Nat) :
    (timeline.serveLate now).cache = timeline.cache.purge now := by
  rw [serveLate, if_pos (by simpa [IsDue] using due)]

theorem serveLate_of_not_isDue
    (idle : ¬timeline.IsDue)
    (now : Nat) :
    timeline.serveLate now = timeline := by
  rw [serveLate, if_neg (by simpa [IsDue] using idle)]

theorem janitors_serveLate
    (timeline : CacheTimeline)
    (now : Nat) :
    (timeline.serveLate now).janitors = timeline.janitors.map fun janitor =>
      if janitor.next ≤ timeline.clock then janitor.skipTo (now + 1) else janitor := by
  by_cases due : timeline.IsDue
  · rw [serveLate, if_pos (by simpa [IsDue] using due)]
  · rw [serveLate_of_not_isDue due]
    refine (List.map_id _).symm.trans (List.map_congr_left fun janitor member => ?_)
    rw [if_neg fun late => due ⟨janitor, member, late⟩, id]

/-- Serving late janitors at once leaves every janitor due after the clock. -/
theorem janitors_serveLate_clock
    (timeline : CacheTimeline) :
    (timeline.serveLate timeline.clock).janitors =
      timeline.janitors.map (Janitor.skipTo · (timeline.clock + 1)) := by
  rw [janitors_serveLate]
  refine List.map_congr_left fun janitor _ => ?_
  split
  · rfl
  · next early => exact (Janitor.skipTo_eq_self (by omega)).symm

@[simp] theorem cache_beat
    (timeline : CacheTimeline) :
    timeline.beat.cache = (timeline.serveLate timeline.clock).cache := rfl

@[simp] theorem clock_beat
    (timeline : CacheTimeline) :
    timeline.beat.clock = timeline.clock + 1 := rfl

@[simp] theorem janitors_beat
    (timeline : CacheTimeline) :
    timeline.beat.janitors =
      timeline.janitors.map (Janitor.skipTo · (timeline.clock + 1)) :=
  janitors_serveLate_clock timeline

theorem hasPeriods_serveLate_clock
    (positive : timeline.HasPeriods) :
    (timeline.serveLate timeline.clock).HasPeriods := by
  intro janitor member
  rw [janitors_serveLate_clock] at member
  obtain ⟨earlier, earlierMember, rfl⟩ := List.mem_map.mp member
  exact positive earlier earlierMember

theorem hasPeriods_beat
    (positive : timeline.HasPeriods) :
    timeline.beat.HasPeriods :=
  hasPeriods_serveLate_clock positive

theorem clock_lt_next_of_mem_serveLate
    (positive : timeline.HasPeriods)
    {janitor : Janitor}
    (member : janitor ∈ (timeline.serveLate timeline.clock).janitors) :
    timeline.clock < janitor.next := by
  rw [janitors_serveLate_clock] at member
  obtain ⟨earlier, earlierMember, rfl⟩ := List.mem_map.mp member
  exact Janitor.le_next_skipTo (positive earlier earlierMember) _

/-! ## A sleep is its nanoseconds -/

theorem cache_sleep
    (timeline : CacheTimeline)
    (duration : Nat) :
    (timeline.sleep duration).cache =
      (timeline.serveLate timeline.clock).cache.purgeLatest
        (Janitor.lastPurges (timeline.serveLate timeline.clock).janitors
          (timeline.clock + duration)) := by
  rw [sleep, clock_serveLate]
  rfl

theorem janitors_sleep
    (timeline : CacheTimeline)
    (duration : Nat) :
    (timeline.sleep duration).janitors =
      (timeline.serveLate timeline.clock).janitors.map
        (Janitor.skipTo · (timeline.clock + duration)) := by
  rw [sleep, clock_serveLate]

theorem isDue_sleep_iff
    (positive : timeline.HasPeriods)
    (duration : Nat) :
    (timeline.sleep duration).IsDue ↔
      ∃ janitor ∈ (timeline.serveLate timeline.clock).janitors,
        janitor.IsDueAt (timeline.clock + duration) := by
  simp only [IsDue, janitors_sleep, clock_sleep, List.mem_map, exists_exists_and_eq_and]
  refine exists_congr fun janitor => and_congr_right fun member => ?_
  exact Janitor.next_skipTo_le_iff (hasPeriods_serveLate_clock positive janitor member)

/-- Whoever sleeps for no time sees the late purges only. -/
theorem sleep_zero
    (positive : timeline.HasPeriods) :
    timeline.sleep 0 = timeline.serveLate timeline.clock := by
  have notYet : ∀ janitor ∈ (timeline.serveLate timeline.clock).janitors,
      timeline.clock ≤ janitor.next :=
    fun _ member => Nat.le_of_lt (clock_lt_next_of_mem_serveLate positive member)
  refine eq_of_parts ?_ (by simp) ?_
  · rw [cache_sleep, Nat.add_zero, Janitor.lastPurges_eq_nil notYet]
    rfl
  · rw [janitors_sleep]
    refine (List.map_congr_left fun janitor member => ?_).trans (List.map_id _)
    exact Janitor.skipTo_eq_self (notYet janitor member)

/-- The last nanosecond of a sleep adds the purges that are due then. -/
theorem cache_sleep_succ
    (positive : timeline.HasPeriods)
    (duration : Nat) :
    (timeline.sleep (duration + 1)).cache =
      ((timeline.sleep duration).serveLate (timeline.clock + duration)).cache := by
  have servedPositive := hasPeriods_serveLate_clock positive
  rw [cache_sleep, ← Nat.add_assoc]
  -- A purge that is due in the last nanosecond makes all earlier ones superfluous.
  by_cases due : (timeline.sleep duration).IsDue
  · have latest := Janitor.max?_lastPurges_succ servedPositive
      ((isDue_sleep_iff positive duration).mp due)
    rw [serveLate_of_isDue due, cache_sleep, Cache.purgeLatest_of_max?_eq_some _ latest,
      Cache.purge_purgeLatest]
    exact fun moment isLast => Nat.le_of_lt (Janitor.lt_of_mem_lastPurges isLast)
  · have idle := mt (isDue_sleep_iff positive duration).mpr due
    rw [serveLate_of_not_isDue due, cache_sleep, Janitor.lastPurges_succ servedPositive idle]

/-- A sleep that is a nanosecond longer ends with one more beat. -/
theorem sleep_succ
    (positive : timeline.HasPeriods)
    (duration : Nat) :
    timeline.sleep (duration + 1) = (timeline.sleep duration).beat := by
  refine eq_of_parts ?_ ?_ ?_
  · rw [cache_beat, clock_sleep]
    exact cache_sleep_succ positive duration
  · rw [clock_beat, clock_sleep, clock_sleep, Nat.add_assoc]
  · rw [janitors_beat, clock_sleep, janitors_sleep, janitors_sleep, List.map_map, Nat.add_assoc]
    refine List.map_congr_left fun janitor member => ?_
    have period := hasPeriods_serveLate_clock positive janitor member
    rw [Function.comp_apply, Janitor.skipTo_skipTo period, Nat.max_eq_right (by omega)]

/-- A sleeper lets the late janitors run, and then the nanoseconds pass. -/
theorem sleep_eq_beats
    (positive : timeline.HasPeriods)
    (duration : Nat) :
    timeline.sleep duration = beat^[duration] (timeline.serveLate timeline.clock) := by
  induction duration with
  | zero => exact sleep_zero positive
  | succ duration inductionHypothesis =>
      rw [sleep_succ positive, inductionHypothesis, Function.iterate_succ_apply']

end CacheTimeline
end FleetDashboard
