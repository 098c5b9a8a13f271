import FleetDashboard.Cache.Run
import FleetDashboard.Proofs.Cache.Lookup

/-!
# Purges on a timeline

Whatever a timeline does while time passes, it purges its cache at moments that
are over when it is done.  So a reader who comes afterwards sees what it would
have seen without janitors.
-/

namespace FleetDashboard

namespace Janitor

/-- The last purge before a moment happens before that moment. -/
theorem lt_of_lastBefore?
    {janitor : Janitor}
    {finish moment : Nat}
    (last : janitor.lastBefore? finish = some moment) :
    moment < finish := by
  by_cases due : janitor.next < finish
  · have steps : janitor.dueBefore finish =
        (finish - 1 - janitor.next) / janitor.period + 1 := by
      rw [dueBefore, if_pos due]
    rw [lastBefore?, steps, Option.some.injEq] at last
    have covered : (finish - 1 - janitor.next) / janitor.period * janitor.period ≤
        finish - 1 - janitor.next := Nat.div_mul_le_self _ _
    omega
  · have noSteps : janitor.dueBefore finish = 0 := by rw [dueBefore, if_neg due]
    rw [lastBefore?, noSteps] at last
    contradiction

end Janitor

namespace CacheTimeline

@[simp] theorem cache_begin
    (lifetime : Nat) :
    (begin lifetime).cache = Cache.empty lifetime := rfl

@[simp] theorem clock_begin
    (lifetime : Nat) :
    (begin lifetime).clock = 0 := rfl

@[simp] theorem cache_withCache
    (timeline : CacheTimeline)
    (cache : Cache) :
    (timeline.withCache cache).cache = cache := rfl

@[simp] theorem clock_withCache
    (timeline : CacheTimeline)
    (cache : Cache) :
    (timeline.withCache cache).clock = timeline.clock := rfl

/-! ## Late purges -/

@[simp] theorem clock_serveLate
    (now : Nat)
    (timeline : CacheTimeline) :
    (timeline.serveLate now).clock = timeline.clock := by
  unfold serveLate
  split <;> rfl

@[simp] theorem lifetime_serveLate
    (now : Nat)
    (timeline : CacheTimeline) :
    (timeline.serveLate now).cache.lifetime = timeline.cache.lifetime := by
  unfold serveLate
  split <;> rfl

theorem lookup_serveLate
    (timeline : CacheTimeline)
    {moment now : Nat}
    (notBefore : moment ≤ now)
    (key : String) :
    (timeline.serveLate moment).cache.lookup now key = timeline.cache.lookup now key := by
  unfold serveLate
  split
  · exact Cache.lookup_purge_of_le timeline.cache notBefore key
  · rfl

/-! ## Passing time -/

@[simp] theorem clock_sleep
    (timeline : CacheTimeline)
    (duration : Nat) :
    (timeline.sleep duration).clock = timeline.clock + duration := by
  simp [sleep]

@[simp] theorem lifetime_sleep
    (timeline : CacheTimeline)
    (duration : Nat) :
    (timeline.sleep duration).cache.lifetime = timeline.cache.lifetime := by
  unfold sleep
  dsimp only
  split <;> simp

/-- Sleeping hides nothing from a reader who comes when it is over. -/
theorem lookup_sleep
    (timeline : CacheTimeline)
    (duration : Nat)
    {now : Nat}
    (notBefore : timeline.clock + duration ≤ now)
    (key : String) :
    (timeline.sleep duration).cache.lookup now key = timeline.cache.lookup now key := by
  have servedBefore : timeline.clock ≤ now := by omega
  unfold sleep
  dsimp only
  split
  · next moment latest =>
      have member := List.max?_mem latest
      obtain ⟨janitor, _, last⟩ := List.mem_filterMap.mp member
      have purgedBefore : moment < timeline.clock + duration := by
        simpa using Janitor.lt_of_lastBefore? last
      rw [Cache.lookup_purge_of_le _ (by omega), lookup_serveLate timeline servedBefore]
  · exact lookup_serveLate timeline servedBefore key

@[simp] theorem clock_advance
    (timeline : CacheTimeline)
    (duration : Nat) :
    (timeline.advance duration).clock = timeline.clock + duration := rfl

@[simp] theorem lifetime_advance
    (timeline : CacheTimeline)
    (duration : Nat) :
    (timeline.advance duration).cache.lifetime = timeline.cache.lifetime := by
  simp [advance]

/-- Moving the clock hides nothing from a reader who comes when it is done. -/
theorem lookup_advance
    (timeline : CacheTimeline)
    (duration : Nat)
    {now : Nat}
    (notBefore : timeline.clock + duration ≤ now)
    (key : String) :
    (timeline.advance duration).cache.lookup now key = timeline.cache.lookup now key :=
  lookup_serveLate timeline notBefore key

@[simp] theorem clock_startJanitor
    (timeline : CacheTimeline)
    (period : Nat) :
    (timeline.startJanitor period).clock = timeline.clock + startup := by
  simp [startJanitor]

@[simp] theorem lifetime_startJanitor
    (timeline : CacheTimeline)
    (period : Nat) :
    (timeline.startJanitor period).cache.lifetime = timeline.cache.lifetime := by
  simp [startJanitor]

theorem lookup_startJanitor
    (timeline : CacheTimeline)
    (period : Nat)
    {now : Nat}
    (notBefore : timeline.clock + startup ≤ now)
    (key : String) :
    (timeline.startJanitor period).cache.lookup now key = timeline.cache.lookup now key := by
  let started : CacheTimeline :=
    { timeline with
      janitors := timeline.janitors ++ [Janitor.start timeline.clock period] }
  exact lookup_sleep started startup notBefore key

end CacheTimeline
end FleetDashboard
