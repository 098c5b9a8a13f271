import FleetDashboard.Proofs.Cache.Schedule

/-!
# Every held entry is accounted for

What a cache holds is what writes have put under keys not held before, less what
purges have dropped.  A purge drops exactly the entries that are over, so none of
them is left after a tick.
-/

namespace FleetDashboard

namespace Cache

/-- Count of the held entries that are over at a moment. -/
def overdue
    (cache : Cache)
    (now : Nat) : Nat :=
  cache.entries.countP fun entry => entry.expiry ≤ now

/-- Count of the entries that an event adds under a key not held before. -/
def created
    (cache : Cache) : CacheEvent → Nat
  | .write written _ => if cache.held? written.key = none then 1 else 0
  | .purge _ => 0
  | .tick _ _ => 0

/-- Count of the entries that an event purges. -/
def dropped
    (cache : Cache) : CacheEvent → Nat
  | .write _ _ => 0
  | .purge moment => cache.overdue moment
  | .tick _ moment => cache.overdue moment

/-- A count for every event, taken in the cache that the event finds, added up. -/
def total
    (count : Cache → CacheEvent → Nat) : Cache → List CacheEvent → Nat
  | _, [] => 0
  | cache, event :: rest => count cache event + total count (cache.apply event) rest

/-! ## Purges -/

/-- A purge leaves all but the entries that are over. -/
theorem size_purge
    (cache : Cache)
    (now : Nat) :
    (cache.purge now).size + cache.overdue now = cache.size := by
  have live : (cache.purge now).size = cache.entries.countP (CacheEntry.isLive now) := by
    rw [size, purge, List.countP_eq_length_filter]
  have dead : cache.overdue now =
      cache.entries.countP fun entry => ¬CacheEntry.isLive now entry := by
    simp [overdue, CacheEntry.isLive]
  rw [live, dead, size, List.length_eq_countP_add_countP (CacheEntry.isLive now)]

theorem purgeable_eq_overdue
    (cache : Cache)
    (now : Nat) :
    cache.purgeable now = cache.overdue now := by
  rw [purgeable, ← cache.size_purge now, Nat.add_sub_cancel_left]

theorem overdue_purge
    (cache : Cache)
    (now : Nat) :
    (cache.purge now).overdue now = 0 := by
  rw [overdue, List.countP_eq_zero]
  intro entry member
  have live := ((mem_entries_purge cache now entry).mp member).2
  simpa using live

/-- A held entry is dropped exactly when its key shows nothing. -/
theorem not_mem_purge_iff
    (cache : Cache)
    (now : Nat)
    {entry : CacheEntry}
    (member : entry ∈ cache.entries) :
    entry ∉ (cache.purge now).entries ↔ cache.lookup now entry.key = none := by
  have held : cache.held? entry.key = some entry :=
    (held?_eq_some_iff cache entry.key entry).mpr ⟨member, rfl⟩
  simp [lookup, held, member, CacheEntry.isLive]

/-! ## Writes -/

theorem held?_eq_none_iff
    (cache : Cache)
    (key : String) :
    cache.held? key = none ↔ key ∉ cache.entries.map CacheEntry.key := by
  simp [held?, List.find?_eq_none]

/-- A key is held by one entry or by none. -/
theorem countP_key
    (cache : Cache)
    (key : String) :
    cache.entries.countP (fun entry => entry.key == key) =
      if cache.held? key = none then 0 else 1 := by
  have counted : cache.entries.countP (fun entry => entry.key == key) =
      (cache.entries.map CacheEntry.key).count key := by
    rw [List.count, List.countP_map]
    rfl
  rw [counted, cache.keysDistinct.count, ← ite_not]
  simp only [held?_eq_none_iff]

/-- A write adds an entry when its key is not held, and replaces one otherwise. -/
theorem size_writeFor
    (cache : Cache)
    (now : Nat)
    (key value : String)
    (lifetime : Nat) :
    (cache.writeFor now key value lifetime).size =
      cache.size + if cache.held? key = none then 1 else 0 := by
  have others : (cache.writeFor now key value lifetime).size =
      cache.entries.countP (fun entry => entry.key != key) + 1 := by
    rw [size, writeFor, List.length_cons, List.countP_eq_length_filter]
  have all : cache.size =
      cache.entries.countP (fun entry => entry.key == key) +
        cache.entries.countP (fun entry => entry.key != key) := by
    rw [size, List.length_eq_countP_add_countP fun entry : CacheEntry => entry.key == key]
    refine congrArg _ (List.countP_congr fun entry _ => ?_)
    simp
  rw [countP_key] at all
  rw [others, all]
  split <;> omega

/-! ## The account -/

/-- What an event leaves and what it drops is what it finds and what it adds. -/
theorem size_apply
    (cache : Cache)
    (event : CacheEvent) :
    (cache.apply event).size + cache.dropped event = cache.size + cache.created event := by
  cases event with
  | write written moment =>
      exact cache.size_writeFor moment written.key written.value written.lifetime
  | purge moment => exact cache.size_purge moment
  | tick due moment => exact cache.size_purge moment

/-- What is held after events, and all that they dropped, is what was held before,
and all that they added. -/
theorem size_replay
    (cache : Cache)
    (events : List CacheEvent) :
    (cache.replay events).size + cache.total dropped events =
      cache.size + cache.total created events := by
  induction events generalizing cache with
  | nil => rfl
  | cons event rest inductionHypothesis =>
      have first := cache.size_apply event
      have later := inductionHypothesis (cache.apply event)
      rw [replay_cons, total, total]
      omega

/-- A write under a key whose entry is over, but not purged yet, adds nothing. -/
example :
    let events := [.write ⟨"k", "v", 5⟩ 0, .write ⟨"k", "w", 5⟩ 7, .tick 10 12]
    let empty := Cache.empty 60
    empty.total created events = 1 ∧ empty.total dropped events = 1 ∧
      (empty.replay events).size = 0 := by
  decide

/-- No entry is left after a tick that is over by then. -/
theorem lt_expiry_of_tick
    (cache : Cache)
    (before : List CacheEvent)
    {due moment : Nat}
    {entry : CacheEntry}
    (member : entry ∈ (cache.replay (before ++ [.tick due moment])).entries) :
    moment < entry.expiry := by
  rw [replay_append] at member
  exact ((mem_entries_purge _ moment entry).mp member).2

end Cache

namespace CacheTimeline

/-- A purge by hand is exact. -/
structure PurgesExactly
    (timeline : CacheTimeline) : Prop where
  /-- It answers the count of the entries that are over. -/
  answer : (timeline.step .purge).1 = .purged (timeline.cache.overdue timeline.clock)
  /-- As many entries as it answers are gone. -/
  removed : (timeline.step .purge).2.cache.size + timeline.cache.overdue timeline.clock =
    timeline.cache.size
  /-- The entries that are not over stay, value and expiry alike, and no other. -/
  kept : ∀ entry, entry ∈ (timeline.step .purge).2.cache.entries ↔
    entry ∈ timeline.cache.entries ∧ timeline.clock < entry.expiry
  /-- Those that go are those that a look-up hides already. -/
  hidden : ∀ entry ∈ timeline.cache.entries,
    entry ∉ (timeline.step .purge).2.cache.entries ↔
      timeline.cache.lookup timeline.clock entry.key = none
  /-- A second purge at once drops nothing. -/
  again : ((timeline.step .purge).2.step .purge).1 = .purged 0

theorem purgesExactly
    (timeline : CacheTimeline) :
    timeline.PurgesExactly where
  answer := congrArg CacheAnswer.purged (timeline.cache.purgeable_eq_overdue timeline.clock)
  removed := timeline.cache.size_purge timeline.clock
  kept := timeline.cache.mem_entries_purge timeline.clock
  hidden := fun _ member => timeline.cache.not_mem_purge_iff timeline.clock member
  again := by
    have nothing := (timeline.cache.purge timeline.clock).purgeable_eq_overdue timeline.clock
    rw [Cache.overdue_purge] at nothing
    exact congrArg CacheAnswer.purged nothing

/-- Purging is exact and accounted for in every run.  A purge by hand drops exactly
the entries that are over and counts them.  The run is its history of writes,
purges and ticks in the order of time, and what is held is what writes have added
less what purges and ticks have dropped.  Every tick is at a whole number of
periods after the start of a janitor, late only when the clock was moved past it,
and leaves no entry that is over; and no tick that should have been is missing,
unless the clock has just been moved past it. -/
theorem purges_exact_and_accounted
    (own : Nat)
    (steps : List CacheStep) :
    let reached := ((begin own).run steps).2
    let history := (begin own).history steps
    let empty := Cache.empty own
    reached.PurgesExactly ∧
    (reached.cache = empty.replay history ∧ CacheEvent.InOrder history) ∧
    ((reached.step .count).1 = .size reached.cache.size ∧
      reached.cache.size + empty.total Cache.dropped history =
        empty.total Cache.created history) ∧
    (reached.cache.entries.map CacheEntry.key).Nodup ∧
    (∀ before due moment after, history = before ++ .tick due moment :: after →
      ∀ entry ∈ (empty.replay (before ++ [.tick due moment])).entries, moment < entry.expiry) ∧
    (∀ due moment, .tick due moment ∈ history →
      CacheStep.IsScheduled steps due ∧ due ≤ moment ∧
        (moment ≠ due → CacheStep.IsSkipped steps due)) ∧
    ∀ due, CacheStep.IsScheduled steps due → due < CacheStep.elapsed steps →
      (∃ moment, .tick due moment ∈ history) ∨ CacheStep.HasJustSkipped steps due := by
  intro reached history empty
  have schedule := keepsSchedule own steps
  have replayed : empty.replay history = reached.cache :=
    replay_history (hasPeriods_begin own) steps
  have account : reached.cache.size + empty.total Cache.dropped history =
      empty.total Cache.created history := by
    have balance := empty.size_replay history
    have nothing : empty.size = 0 := rfl
    rwa [replayed, nothing, Nat.zero_add] at balance
  refine ⟨reached.purgesExactly, ⟨replayed.symm, inOrder_history _ _⟩, ⟨rfl, account⟩,
    reached.cache.keysDistinct, ?_, ?_, ?_⟩
  · intro before due moment after _ entry member
    exact empty.lt_expiry_of_tick before member
  · intro due moment happened
    exact ⟨schedule.scheduled due moment happened, schedule.punctual due moment happened⟩
  · intro due isScheduled past
    rcases schedule.covered due isScheduled with done | ⟨janitor, member, isDue⟩
    · exact .inl done
    · have next := Janitor.next_le_of_isDueAt isDue
      rcases schedule.behind janitor member with ahead | skipped
      · omega
      · exact .inr (skipped.mono next)

end CacheTimeline
end FleetDashboard
