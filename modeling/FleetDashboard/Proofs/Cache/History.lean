import FleetDashboard.Proofs.Cache.Beat
import FleetDashboard.Proofs.Cache.LatestWrite

/-!
# The history of a cache

A run of a cache is a sequence of writes, purges by hand and ticks of janitors,
each at a moment of its own.  Replaying them one after the other gives the cache
that the run reaches.
-/

namespace FleetDashboard

/-- Something that changes what a cache holds. -/
inductive CacheEvent where
  | write
      (written : CacheWrite)
      (moment : Nat)
  /-- A purge by hand. -/
  | purge
      (moment : Nat)
  /-- A purge by a janitor: the moment it was due and the moment it happened. -/
  | tick
      (due moment : Nat)
  deriving DecidableEq, Repr

namespace CacheEvent

/-- The moment at which an event happened. -/
def moment : CacheEvent → Nat
  | .write _ moment => moment
  | .purge moment => moment
  | .tick _ moment => moment

/-- Events that are told in the order of time. -/
def InOrder
    (events : List CacheEvent) : Prop :=
  events.Pairwise fun earlier later => earlier.moment ≤ later.moment

theorem InOrder.append
    {front back : List CacheEvent}
    (frontOrdered : InOrder front)
    (backOrdered : InOrder back)
    (border : Nat)
    (frontBefore : ∀ event ∈ front, event.moment ≤ border)
    (backAfter : ∀ event ∈ back, border ≤ event.moment) :
    InOrder (front ++ back) :=
  List.pairwise_append.mpr ⟨frontOrdered, backOrdered, fun _ first _ second =>
    Nat.le_trans (frontBefore _ first) (backAfter _ second)⟩

end CacheEvent

namespace Cache

/-- The cache after an event. -/
def apply
    (cache : Cache) : CacheEvent → Cache
  | .write written moment =>
      cache.writeFor moment written.key written.value written.lifetime
  | .purge moment => cache.purge moment
  | .tick _ moment => cache.purge moment

/-- The cache after events, one after the other. -/
def replay
    (cache : Cache)
    (events : List CacheEvent) : Cache :=
  events.foldl apply cache

@[simp] theorem replay_nil
    (cache : Cache) :
    cache.replay [] = cache := rfl

@[simp] theorem replay_cons
    (cache : Cache)
    (event : CacheEvent)
    (rest : List CacheEvent) :
    cache.replay (event :: rest) = (cache.apply event).replay rest := rfl

@[simp] theorem replay_append
    (cache : Cache)
    (front back : List CacheEvent) :
    cache.replay (front ++ back) = (cache.replay front).replay back :=
  List.foldl_append

/-- Ticks that happen at one moment purge once. -/
theorem replay_ticks
    (cache : Cache)
    {dues : List Nat}
    (some : dues ≠ [])
    (now : Nat) :
    cache.replay (dues.map (CacheEvent.tick · now)) = cache.purge now := by
  induction dues generalizing cache with
  | nil => exact absurd rfl some
  | cons due rest inductionHypothesis =>
      rw [List.map_cons, replay_cons, apply]
      by_cases last : rest = []
      · rw [last]
        rfl
      · rw [inductionHypothesis _ last, purge_purge, Nat.max_self]

end Cache

namespace Janitor

theorem period_start_pos
    (now period : Nat) :
    0 < (start now period).period :=
  Nat.lt_of_lt_of_le (by decide) (Nat.le_max_right period shortestPeriod)

/-- The moments before a given one at which a janitor is due. -/
def duesBefore
    (janitor : Janitor)
    (moment : Nat) : List Nat :=
  (List.range (janitor.dueBefore moment)).map fun count =>
    janitor.next + count * janitor.period

theorem mem_duesBefore
    {janitor : Janitor}
    (positive : 0 < janitor.period)
    {due moment : Nat} :
    due ∈ janitor.duesBefore moment ↔ janitor.IsDueAt due ∧ due < moment := by
  simp only [duesBefore, List.mem_map, List.mem_range, lt_dueBefore_iff positive]
  constructor
  · rintro ⟨count, before, rfl⟩
    exact ⟨⟨count, rfl⟩, before⟩
  · rintro ⟨⟨count, rfl⟩, before⟩
    exact ⟨count, before, rfl⟩

theorem duesBefore_ne_nil
    {janitor : Janitor}
    {moment : Nat}
    (late : janitor.next < moment) :
    janitor.duesBefore moment ≠ [] := by
  simp [duesBefore, dueBefore, late]

end Janitor

namespace CacheStep

/-- The janitor that a step starts. -/
def started
    (clock : Nat) : CacheStep → List Janitor
  | .startJanitor period => [Janitor.start clock period]
  | _ => []

/-- The moment before which a step makes the purges of a janitor.  When the clock is
moved at once, only a janitor that was late before runs, and it catches up. -/
def horizon
    (clock : Nat)
    (janitor : Janitor) : CacheStep → Nat
  | .sleep duration => max (clock + 1) (clock + duration)
  | .startJanitor _ => max (clock + 1) (clock + CacheTimeline.startup)
  | .advance duration => if janitor.next ≤ clock then clock + duration + 1 else 0
  | _ => 0

/-- The moment at which a step makes a purge that is due. -/
def served
    (clock due : Nat) : CacheStep → Nat
  | .advance duration => clock + duration
  | _ => max due clock

theorem period_pos_of_mem_started
    {step : CacheStep}
    {clock : Nat}
    {janitor : Janitor}
    (member : janitor ∈ step.started clock) :
    0 < janitor.period := by
  cases step with
  | startJanitor period =>
      obtain rfl := List.mem_singleton.mp member
      exact Janitor.period_start_pos clock period
  | _ => simp [started] at member

theorem lt_next_of_mem_started
    {step : CacheStep}
    {clock : Nat}
    {janitor : Janitor}
    (member : janitor ∈ step.started clock) :
    clock < janitor.next := by
  cases step with
  | startJanitor period =>
      obtain rfl := List.mem_singleton.mp member
      exact Nat.lt_add_of_pos_right (Janitor.period_start_pos clock period)
  | _ => simp [started] at member

end CacheStep

namespace CacheTimeline

/-! ## Ticks -/

/-- The dues of the janitors that are late, when they run at a moment. -/
def lateDues
    (now : Nat)
    (timeline : CacheTimeline) : List Nat :=
  (timeline.janitors.filter fun janitor => janitor.next ≤ timeline.clock).flatMap
    (Janitor.duesBefore · (now + 1))

/-- The ticks of the janitors that are late, when they run at a moment. -/
def lateTicks
    (now : Nat)
    (timeline : CacheTimeline) : List CacheEvent :=
  (timeline.lateDues now).map (CacheEvent.tick · now)

/-- The ticks while some nanoseconds pass. -/
def beatTicks : Nat → CacheTimeline → List CacheEvent
  | 0, _ => []
  | duration + 1, timeline =>
      timeline.lateTicks timeline.clock ++ timeline.beat.beatTicks duration

/-- The ticks of a sleep: those of the late janitors, and then those that are due
while time passes. -/
def sleepTicks
    (duration : Nat)
    (timeline : CacheTimeline) : List CacheEvent :=
  timeline.lateTicks timeline.clock ++
    (timeline.serveLate timeline.clock).beatTicks duration

/-- A janitor is added to the timeline. -/
def withJanitor
    (timeline : CacheTimeline)
    (period : Nat) : CacheTimeline :=
  { timeline with
    janitors := timeline.janitors ++ [Janitor.start timeline.clock period] }

/-- What happens to the cache in one step. -/
def events
    (timeline : CacheTimeline) : CacheStep → List CacheEvent
  | .set key value => [.write ⟨key, value, timeline.cache.lifetime⟩ timeline.clock]
  | .setFor key value lifetime => [.write ⟨key, value, lifetime⟩ timeline.clock]
  | .purge => [.purge timeline.clock]
  | .advance duration => timeline.lateTicks (timeline.clock + duration)
  | .sleep duration => timeline.sleepTicks duration
  | .startJanitor period => (timeline.withJanitor period).sleepTicks startup
  | .get _ => []
  | .count => []

/-- What happens to the cache in a run. -/
def history : CacheTimeline → List CacheStep → List CacheEvent
  | _, [] => []
  | timeline, step :: rest => timeline.events step ++ (timeline.step step).2.history rest

@[simp] theorem history_nil
    (timeline : CacheTimeline) :
    timeline.history [] = [] := rfl

@[simp] theorem history_cons
    (timeline : CacheTimeline)
    (step : CacheStep)
    (rest : List CacheStep) :
    timeline.history (step :: rest) =
      timeline.events step ++ (timeline.step step).2.history rest := rfl

theorem history_concat
    (timeline : CacheTimeline)
    (steps : List CacheStep)
    (step : CacheStep) :
    timeline.history (steps ++ [step]) =
      timeline.history steps ++ (timeline.run steps).2.events step := by
  induction steps generalizing timeline with
  | nil => simp
  | cons first rest inductionHypothesis => simp [inductionHypothesis]

variable {timeline : CacheTimeline}

/-! ## The janitors after a step -/

theorem hasPeriods_begin
    (own : Nat) :
    (begin own).HasPeriods := by
  simp [HasPeriods, begin]

theorem hasPeriods_withJanitor
    (positive : timeline.HasPeriods)
    (period : Nat) :
    (timeline.withJanitor period).HasPeriods := by
  intro janitor member
  rcases List.mem_append.mp member with earlier | started
  · exact positive janitor earlier
  · obtain rfl := List.mem_singleton.mp started
    exact Janitor.period_start_pos timeline.clock period

theorem janitors_sleep_eq
    (positive : timeline.HasPeriods)
    (duration : Nat) :
    (timeline.sleep duration).janitors = timeline.janitors.map
      (Janitor.skipTo · (max (timeline.clock + 1) (timeline.clock + duration))) := by
  rw [janitors_sleep, janitors_serveLate_clock, List.map_map]
  refine List.map_congr_left fun janitor member => ?_
  exact Janitor.skipTo_skipTo (positive janitor member) _ _

/-- A step makes the purges of every janitor up to a moment, and may start a
janitor. -/
theorem janitors_step
    (positive : timeline.HasPeriods)
    (step : CacheStep) :
    (timeline.step step).2.janitors =
      (timeline.janitors ++ step.started timeline.clock).map fun janitor =>
        janitor.skipTo (step.horizon timeline.clock janitor) := by
  have kept : timeline.janitors =
      (timeline.janitors ++ []).map (Janitor.skipTo · 0) := by
    rw [List.append_nil]
    refine (List.map_id _).symm.trans (List.map_congr_left fun janitor _ => ?_)
    exact (Janitor.skipTo_eq_self (Nat.zero_le _)).symm
  cases step with
  | advance duration =>
      refine (janitors_serveLate timeline _).trans ?_
      simp only [CacheStep.started, CacheStep.horizon, List.append_nil]
      refine List.map_congr_left fun janitor _ => ?_
      split
      · rfl
      · exact (Janitor.skipTo_eq_self (Nat.zero_le _)).symm
  | sleep duration =>
      simp only [CacheStep.started, CacheStep.horizon, List.append_nil]
      exact janitors_sleep_eq positive duration
  | startJanitor period =>
      exact janitors_sleep_eq (hasPeriods_withJanitor positive period) startup
  | _ => exact kept

theorem hasPeriods_step
    (positive : timeline.HasPeriods)
    (step : CacheStep) :
    (timeline.step step).2.HasPeriods := by
  intro janitor member
  rw [janitors_step positive] at member
  obtain ⟨earlier, earlierMember, rfl⟩ := List.mem_map.mp member
  rcases List.mem_append.mp earlierMember with before | started
  · exact positive earlier before
  · have startedPositive : 0 < earlier.period := CacheStep.period_pos_of_mem_started started
    exact startedPositive

theorem hasPeriods_run
    (positive : timeline.HasPeriods)
    (steps : List CacheStep) :
    (timeline.run steps).2.HasPeriods := by
  induction steps generalizing timeline with
  | nil => exact positive
  | cons step rest inductionHypothesis =>
      rw [run_cons]
      exact inductionHypothesis (hasPeriods_step positive step)

/-! ## Replaying a run -/

theorem replay_lateTicks
    (timeline : CacheTimeline)
    {now : Nat}
    (notBefore : timeline.clock ≤ now) :
    timeline.cache.replay (timeline.lateTicks now) = (timeline.serveLate now).cache := by
  by_cases due : timeline.IsDue
  · obtain ⟨janitor, member, late⟩ := due
    have some : timeline.lateDues now ≠ [] := by
      have duesOfOne : janitor.duesBefore (now + 1) ≠ [] :=
        Janitor.duesBefore_ne_nil (by omega)
      have isLate : janitor ∈ timeline.janitors.filter fun janitor =>
          janitor.next ≤ timeline.clock :=
        List.mem_filter.mpr ⟨member, by simpa using late⟩
      exact fun none => duesOfOne (List.flatMap_eq_nil_iff.mp none janitor isLate)
    rw [lateTicks, Cache.replay_ticks _ some, serveLate_of_isDue ⟨janitor, member, late⟩]
  · have none : timeline.lateTicks now = [] := by
      rw [lateTicks, lateDues, List.filter_eq_nil_iff.mpr]
      · rfl
      · intro janitor member late
        exact due ⟨janitor, member, by simpa using late⟩
    rw [none, serveLate_of_not_isDue due, Cache.replay_nil]

theorem replay_beatTicks
    (timeline : CacheTimeline)
    (duration : Nat) :
    timeline.cache.replay (timeline.beatTicks duration) = (beat^[duration] timeline).cache := by
  induction duration generalizing timeline with
  | zero => rfl
  | succ duration inductionHypothesis =>
      rw [beatTicks, Cache.replay_append, replay_lateTicks timeline (Nat.le_refl _),
        ← cache_beat, inductionHypothesis, Function.iterate_succ_apply]

theorem replay_sleepTicks
    (positive : timeline.HasPeriods)
    (duration : Nat) :
    timeline.cache.replay (timeline.sleepTicks duration) = (timeline.sleep duration).cache := by
  rw [sleepTicks, Cache.replay_append, replay_lateTicks timeline (Nat.le_refl _),
    replay_beatTicks, sleep_eq_beats positive]

/-- Replaying what happens in a step gives the cache after it. -/
theorem replay_events
    (positive : timeline.HasPeriods)
    (step : CacheStep) :
    timeline.cache.replay (timeline.events step) = (timeline.step step).2.cache := by
  cases step with
  | advance duration => exact replay_lateTicks timeline (Nat.le_add_right _ _)
  | sleep duration => exact replay_sleepTicks positive duration
  | startJanitor period => exact replay_sleepTicks (hasPeriods_withJanitor positive period) startup
  | _ => rfl

/-- Replaying the history of a run gives the cache that the run reaches. -/
theorem replay_history
    (positive : timeline.HasPeriods)
    (steps : List CacheStep) :
    timeline.cache.replay (timeline.history steps) = (timeline.run steps).2.cache := by
  induction steps generalizing timeline with
  | nil => rfl
  | cons step rest inductionHypothesis =>
      rw [history_cons, Cache.replay_append, replay_events positive,
        inductionHypothesis (hasPeriods_step positive step), run_cons]

/-! ## Moments -/

theorem moment_of_mem_lateTicks
    (timeline : CacheTimeline)
    {now : Nat}
    {event : CacheEvent}
    (member : event ∈ timeline.lateTicks now) :
    event.moment = now := by
  obtain ⟨due, _, rfl⟩ := List.mem_map.mp member
  rfl

theorem moment_of_mem_beatTicks
    (timeline : CacheTimeline)
    {duration : Nat}
    {event : CacheEvent}
    (member : event ∈ timeline.beatTicks duration) :
    timeline.clock ≤ event.moment ∧ event.moment < timeline.clock + duration := by
  induction duration generalizing timeline with
  | zero => simp [beatTicks] at member
  | succ duration inductionHypothesis =>
      rcases List.mem_append.mp member with now | later
      · have atClock := moment_of_mem_lateTicks timeline now
        omega
      · have bounds := inductionHypothesis timeline.beat later
        rw [clock_beat] at bounds
        omega

theorem moment_of_mem_sleepTicks
    (timeline : CacheTimeline)
    {duration : Nat}
    {event : CacheEvent}
    (member : event ∈ timeline.sleepTicks duration) :
    timeline.clock ≤ event.moment ∧ event.moment ≤ timeline.clock + duration := by
  rcases List.mem_append.mp member with now | later
  · have atClock := moment_of_mem_lateTicks timeline now
    omega
  · have bounds := moment_of_mem_beatTicks _ later
    rw [clock_serveLate] at bounds
    omega

/-- What happens in a step happens while it lasts. -/
theorem moment_of_mem_events
    (timeline : CacheTimeline)
    {step : CacheStep}
    {event : CacheEvent}
    (member : event ∈ timeline.events step) :
    timeline.clock ≤ event.moment ∧ event.moment ≤ timeline.clock + step.duration := by
  cases step with
  | advance duration =>
      have atEnd := moment_of_mem_lateTicks timeline member
      rw [CacheStep.duration]
      omega
  | sleep duration => exact moment_of_mem_sleepTicks timeline member
  | startJanitor period => exact moment_of_mem_sleepTicks (timeline.withJanitor period) member
  | get => simp [events] at member
  | count => simp [events] at member
  | _ =>
      obtain rfl := List.mem_singleton.mp member
      simp [CacheEvent.moment]

theorem moment_of_mem_history
    (timeline : CacheTimeline)
    {steps : List CacheStep}
    {event : CacheEvent}
    (member : event ∈ timeline.history steps) :
    event.moment ≤ timeline.clock + CacheStep.elapsed steps := by
  induction steps using List.reverseRecOn with
  | nil => simp at member
  | append_singleton steps step inductionHypothesis =>
      rw [CacheStep.elapsed_append, CacheStep.elapsed_singleton]
      rw [history_concat] at member
      rcases List.mem_append.mp member with earlier | latest
      · have bound := inductionHypothesis earlier
        omega
      · have bounds := moment_of_mem_events _ latest
        rw [clock_run] at bounds
        omega

/-! ## The order of events -/

theorem inOrder_lateTicks
    (timeline : CacheTimeline)
    (now : Nat) :
    CacheEvent.InOrder (timeline.lateTicks now) :=
  List.pairwise_map.mpr (List.pairwise_of_forall fun _ _ => Nat.le_refl now)

theorem inOrder_beatTicks
    (timeline : CacheTimeline)
    (duration : Nat) :
    CacheEvent.InOrder (timeline.beatTicks duration) := by
  induction duration generalizing timeline with
  | zero => exact List.Pairwise.nil
  | succ duration inductionHypothesis =>
      refine CacheEvent.InOrder.append (inOrder_lateTicks timeline _)
        (inductionHypothesis timeline.beat) timeline.clock ?_ ?_
      · intro event member
        exact Nat.le_of_eq (moment_of_mem_lateTicks timeline member)
      · intro event member
        have bounds := moment_of_mem_beatTicks _ member
        rw [clock_beat] at bounds
        omega

theorem inOrder_sleepTicks
    (timeline : CacheTimeline)
    (duration : Nat) :
    CacheEvent.InOrder (timeline.sleepTicks duration) := by
  refine CacheEvent.InOrder.append (inOrder_lateTicks timeline _) (inOrder_beatTicks _ _)
    timeline.clock ?_ ?_
  · intro event member
    exact Nat.le_of_eq (moment_of_mem_lateTicks timeline member)
  · intro event member
    have bounds := moment_of_mem_beatTicks _ member
    rw [clock_serveLate] at bounds
    exact bounds.1

theorem inOrder_events
    (timeline : CacheTimeline)
    (step : CacheStep) :
    CacheEvent.InOrder (timeline.events step) := by
  cases step with
  | advance duration => exact inOrder_lateTicks timeline _
  | sleep duration => exact inOrder_sleepTicks timeline duration
  | startJanitor period => exact inOrder_sleepTicks _ startup
  | get => exact List.Pairwise.nil
  | count => exact List.Pairwise.nil
  | _ => exact List.pairwise_singleton _ _

/-- A history is told in the order of time. -/
theorem inOrder_history
    (timeline : CacheTimeline)
    (steps : List CacheStep) :
    CacheEvent.InOrder (timeline.history steps) := by
  induction steps using List.reverseRecOn with
  | nil => exact List.Pairwise.nil
  | append_singleton steps step inductionHypothesis =>
      rw [history_concat]
      refine CacheEvent.InOrder.append inductionHypothesis (inOrder_events _ step)
        (timeline.clock + CacheStep.elapsed steps) ?_ ?_
      · intro event member
        exact moment_of_mem_history timeline member
      · intro event member
        have bounds := moment_of_mem_events _ member
        rw [clock_run] at bounds
        exact bounds.1

end CacheTimeline
end FleetDashboard
