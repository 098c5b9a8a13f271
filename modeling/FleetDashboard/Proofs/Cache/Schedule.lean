import FleetDashboard.Proofs.Cache.History

/-!
# The schedule of the janitors

A janitor is to purge one period after it was started and then once in every
period.  In every run each tick keeps to that schedule, no tick is left out, and
a tick is late only when the clock was moved past it at once.
-/

namespace FleetDashboard

namespace CacheStep

/-- A purge by a janitor is scheduled for that moment: some periods after the
janitor was started.  A period is the requested one, or a second when less was
requested. -/
def IsScheduled
    (steps : List CacheStep)
    (due : Nat) : Prop :=
  ∃ front period back count,
    steps = front ++ .startJanitor period :: back ∧
      due = elapsed front + (count + 1) * max period Janitor.shortestPeriod

/-- The clock was moved past a moment at once. -/
def IsSkipped
    (steps : List CacheStep)
    (moment : Nat) : Prop :=
  ∃ front duration back,
    steps = front ++ .advance duration :: back ∧
      elapsed front ≤ moment ∧ moment < elapsed front + duration

/-- The clock was moved at once, from a moment that is not later than the given
one, and no time has passed since. -/
def HasJustSkipped
    (steps : List CacheStep)
    (moment : Nat) : Prop :=
  ∃ front duration idle,
    steps = front ++ .advance duration :: idle ∧
      elapsed idle = 0 ∧ elapsed front ≤ moment

variable {steps : List CacheStep} {step : CacheStep}

/-- A step of a longer run is its last one or one from before. -/
theorem last_or_earlier
    {front back : List CacheStep}
    {item : CacheStep}
    (whole : steps ++ [step] = front ++ item :: back) :
    (front = steps ∧ item = step) ∨ ∃ rest, steps = front ++ item :: rest := by
  rcases List.eq_nil_or_concat back with rfl | ⟨rest, last, rfl⟩
  · obtain ⟨sameFront, sameItem⟩ := List.append_inj' whole rfl
    exact .inl ⟨sameFront.symm, (List.singleton_inj.mp sameItem).symm⟩
  · have regrouped : steps ++ [step] = (front ++ item :: rest) ++ [last] := by
      simpa using whole
    exact .inr ⟨rest, (List.append_inj' regrouped rfl).1⟩

theorem isScheduled_concat_iff
    {due : Nat} :
    IsScheduled (steps ++ [step]) due ↔
      IsScheduled steps due ∨ ∃ janitor ∈ step.started (elapsed steps), janitor.IsDueAt due := by
  constructor
  · rintro ⟨front, period, back, count, whole, rfl⟩
    rcases last_or_earlier whole with ⟨rfl, rfl⟩ | ⟨rest, earlier⟩
    · right
      exact ⟨_, List.mem_singleton_self _, Janitor.isDueAt_start_iff.mpr ⟨count, rfl⟩⟩
    · exact .inl ⟨front, period, rest, count, earlier, rfl⟩
  · rintro (⟨front, period, back, count, rfl, rfl⟩ | ⟨janitor, isStarted, due⟩)
    · exact ⟨front, period, back ++ [step], count, by simp, rfl⟩
    · cases step with
      | startJanitor period =>
          obtain rfl := List.mem_singleton.mp isStarted
          obtain ⟨count, rfl⟩ := Janitor.isDueAt_start_iff.mp due
          exact ⟨steps, period, [], count, rfl, rfl⟩
      | _ => simp [started] at isStarted

theorem IsSkipped.concat
    {moment : Nat}
    (skipped : IsSkipped steps moment)
    (step : CacheStep) :
    IsSkipped (steps ++ [step]) moment := by
  obtain ⟨front, duration, back, rfl, bounds⟩ := skipped
  exact ⟨front, duration, back ++ [step], by simp, bounds⟩

theorem HasJustSkipped.concat
    {moment : Nat}
    (skipped : HasJustSkipped steps moment)
    (idle : step.duration = 0) :
    HasJustSkipped (steps ++ [step]) moment := by
  obtain ⟨front, duration, before, rfl, none, notAfter⟩ := skipped
  exact ⟨front, duration, before ++ [step], by simp, by simp [none, idle], notAfter⟩

theorem HasJustSkipped.mono
    {earlier later : Nat}
    (skipped : HasJustSkipped steps earlier)
    (inOrder : earlier ≤ later) :
    HasJustSkipped steps later := by
  obtain ⟨front, duration, idle, same, none, notAfter⟩ := skipped
  exact ⟨front, duration, idle, same, none, Nat.le_trans notAfter inOrder⟩

theorem HasJustSkipped.isSkipped
    {moment : Nat}
    (skipped : HasJustSkipped steps moment)
    (before : moment < elapsed steps) :
    IsSkipped steps moment := by
  obtain ⟨front, duration, idle, rfl, none, notAfter⟩ := skipped
  refine ⟨front, duration, idle, rfl, notAfter, ?_⟩
  have total : elapsed (front ++ .advance duration :: idle) = elapsed front + duration := by
    rw [elapsed_append, ← List.singleton_append, elapsed_append, none]
    rfl
  rwa [total] at before

end CacheStep

namespace CacheTimeline

variable {timeline : CacheTimeline}

/-! ## Which ticks happen -/

theorem tick_mem_lateTicks_iff
    (positive : timeline.HasPeriods)
    {now due moment : Nat} :
    .tick due moment ∈ timeline.lateTicks now ↔
      moment = now ∧ ∃ janitor ∈ timeline.janitors,
        janitor.next ≤ timeline.clock ∧ janitor.IsDueAt due ∧ due ≤ now := by
  have isLateDue : due ∈ timeline.lateDues now ↔ ∃ janitor ∈ timeline.janitors,
      janitor.next ≤ timeline.clock ∧ janitor.IsDueAt due ∧ due ≤ now := by
    simp only [lateDues, List.mem_flatMap, List.mem_filter, decide_eq_true_eq, and_assoc]
    refine exists_congr fun janitor => and_congr_right fun member => ?_
    rw [Janitor.mem_duesBefore (positive janitor member), Nat.lt_succ_iff]
  rw [← isLateDue, lateTicks, List.mem_map]
  constructor
  · rintro ⟨_, member, same⟩
    cases same
    exact ⟨rfl, member⟩
  · rintro ⟨rfl, member⟩
    exact ⟨due, member, rfl⟩

/-- The dues after late janitors have run are those that come after the clock. -/
theorem exists_isDueAt_serveLate_iff
    (positive : timeline.HasPeriods)
    {due : Nat} :
    (∃ janitor ∈ (timeline.serveLate timeline.clock).janitors, janitor.IsDueAt due) ↔
      (∃ janitor ∈ timeline.janitors, janitor.IsDueAt due) ∧ timeline.clock < due := by
  simp only [janitors_serveLate_clock, List.mem_map, exists_exists_and_eq_and]
  rw [← exists_and_right]
  refine exists_congr fun janitor => ?_
  rw [and_assoc]
  exact and_congr_right fun member => Janitor.isDueAt_skipTo_iff (positive janitor member)

/-- When no janitor is late, the ticks while time passes are those that are due,
each at its moment. -/
theorem tick_mem_beatTicks_iff
    (positive : timeline.HasPeriods)
    (onTime : ∀ janitor ∈ timeline.janitors, timeline.clock ≤ janitor.next)
    {duration due moment : Nat} :
    .tick due moment ∈ timeline.beatTicks duration ↔
      moment = due ∧ due < timeline.clock + duration ∧
        ∃ janitor ∈ timeline.janitors, janitor.IsDueAt due := by
  induction duration generalizing timeline with
  | zero =>
      refine iff_of_false (by simp [beatTicks]) ?_
      rintro ⟨-, before, janitor, member, isDue⟩
      have next := onTime janitor member
      have due := Janitor.next_le_of_isDueAt isDue
      omega
  | succ duration inductionHypothesis =>
      have notBefore
          {janitor : Janitor}
          (member : janitor ∈ timeline.janitors)
          (isDue : janitor.IsDueAt due) :
          timeline.clock ≤ due :=
        Nat.le_trans (onTime janitor member) (Janitor.next_le_of_isDueAt isDue)
      have afterBeat : .tick due moment ∈ timeline.beat.beatTicks duration ↔
          moment = due ∧ due < timeline.clock + 1 + duration ∧
            ∃ janitor ∈ (timeline.serveLate timeline.clock).janitors, janitor.IsDueAt due :=
        inductionHypothesis (hasPeriods_beat positive) fun _ member =>
          clock_lt_next_of_mem_serveLate positive member
      rw [beatTicks, List.mem_append, tick_mem_lateTicks_iff positive, afterBeat,
        exists_isDueAt_serveLate_iff positive]
      constructor
      · rintro (⟨rfl, janitor, member, -, isDue, notAfter⟩ |
          ⟨rfl, before, ⟨janitor, member, isDue⟩, -⟩)
        · have now := Nat.le_antisymm notAfter (notBefore member isDue)
          exact ⟨now.symm, by omega, janitor, member, isDue⟩
        · exact ⟨rfl, by omega, janitor, member, isDue⟩
      · rintro ⟨rfl, before, janitor, member, isDue⟩
        have reached := notBefore member isDue
        rcases Nat.eq_or_lt_of_le reached with now | later
        · have late := Janitor.next_le_of_isDueAt isDue
          exact .inl ⟨now.symm, janitor, member, by omega, isDue, by omega⟩
        · exact .inr ⟨rfl, by omega, ⟨janitor, member, isDue⟩, later⟩

theorem tick_mem_sleepTicks_iff
    (positive : timeline.HasPeriods)
    {duration due moment : Nat} :
    .tick due moment ∈ timeline.sleepTicks duration ↔
      moment = max due timeline.clock ∧
        due < max (timeline.clock + 1) (timeline.clock + duration) ∧
          ∃ janitor ∈ timeline.janitors, janitor.IsDueAt due := by
  have onTime : ∀ janitor ∈ (timeline.serveLate timeline.clock).janitors,
      (timeline.serveLate timeline.clock).clock ≤ janitor.next := by
    intro janitor member
    rw [clock_serveLate]
    exact Nat.le_of_lt (clock_lt_next_of_mem_serveLate positive member)
  rw [sleepTicks, List.mem_append, tick_mem_lateTicks_iff positive,
    tick_mem_beatTicks_iff (hasPeriods_serveLate_clock positive) onTime,
    exists_isDueAt_serveLate_iff positive, clock_serveLate]
  constructor
  · rintro (⟨rfl, janitor, member, -, isDue, late⟩ | ⟨rfl, before, isDue, after⟩)
    · exact ⟨by omega, by omega, janitor, member, isDue⟩
    · exact ⟨by omega, by omega, isDue⟩
  · rintro ⟨rfl, before, janitor, member, isDue⟩
    rcases Nat.lt_or_ge timeline.clock due with after | late
    · exact .inr ⟨by omega, by omega, ⟨janitor, member, isDue⟩, after⟩
    · have next := Janitor.next_le_of_isDueAt isDue
      exact .inl ⟨by omega, janitor, member, by omega, isDue, late⟩

/-- A step makes exactly the purges that are due before its horizon. -/
theorem tick_mem_events_iff
    (positive : timeline.HasPeriods)
    {step : CacheStep}
    {due moment : Nat} :
    .tick due moment ∈ timeline.events step ↔
      moment = step.served timeline.clock due ∧
        ∃ janitor ∈ timeline.janitors ++ step.started timeline.clock,
          janitor.IsDueAt due ∧ due < step.horizon timeline.clock janitor := by
  cases step with
  | advance duration =>
      refine (tick_mem_lateTicks_iff positive).trans (and_congr_right fun _ => ?_)
      simp only [CacheStep.started, CacheStep.horizon, List.append_nil]
      refine exists_congr fun janitor => and_congr_right fun _ => ?_
      split
      · next late =>
          exact (and_iff_right late).trans (and_congr_right fun _ => Nat.lt_succ_iff.symm)
      · next early => simp [early]
  | sleep duration =>
      refine (tick_mem_sleepTicks_iff positive).trans (and_congr_right fun _ => ?_)
      simp only [CacheStep.started, CacheStep.horizon, List.append_nil]
      rw [and_comm]
      simp only [← exists_and_right, and_assoc]
  | startJanitor period =>
      refine (tick_mem_sleepTicks_iff (hasPeriods_withJanitor positive period)).trans
        (and_congr_right fun _ => ?_)
      rw [and_comm]
      simp only [← exists_and_right, and_assoc]
      rfl
  | _ => simp [events, CacheStep.horizon]

/-- A janitor that the clock has left behind purges late, and in time from then on. -/
example :
    (⟨Cache.empty 60, 5, [⟨3, 1⟩]⟩ : CacheTimeline).events (.sleep 3) =
      [.tick 1 5, .tick 4 5, .tick 7 7] := by
  decide

/-! ## What a run has done and what is left -/

variable {own : Nat} {steps : List CacheStep} {step : CacheStep}

theorem clock_reached
    (own : Nat)
    (steps : List CacheStep) :
    ((begin own).run steps).2.clock = CacheStep.elapsed steps := by
  rw [clock_run, clock_begin, Nat.zero_add]

theorem hasPeriods_reached
    (own : Nat)
    (steps : List CacheStep) :
    ((begin own).run steps).2.HasPeriods :=
  hasPeriods_run (hasPeriods_begin own) steps

/-- The janitors on whose behalf a further step purges: those of the run and the
one that the step starts. -/
def janitorsIn
    (own : Nat)
    (steps : List CacheStep)
    (step : CacheStep) : List Janitor :=
  ((begin own).run steps).2.janitors ++ step.started (CacheStep.elapsed steps)

theorem period_pos_of_mem_janitorsIn
    {janitor : Janitor}
    (member : janitor ∈ janitorsIn own steps step) :
    0 < janitor.period := by
  rcases List.mem_append.mp member with before | started
  · exact hasPeriods_reached own steps janitor before
  · exact CacheStep.period_pos_of_mem_started started

theorem janitors_run_concat
    (own : Nat)
    (steps : List CacheStep)
    (step : CacheStep) :
    ((begin own).run (steps ++ [step])).2.janitors =
      (janitorsIn own steps step).map fun janitor =>
        janitor.skipTo (step.horizon (CacheStep.elapsed steps) janitor) := by
  rw [run_concat, janitors_step (hasPeriods_reached own steps), clock_reached]
  rfl

theorem tick_mem_history_concat_iff
    {due moment : Nat} :
    .tick due moment ∈ (begin own).history (steps ++ [step]) ↔
      .tick due moment ∈ (begin own).history steps ∨
        moment = step.served (CacheStep.elapsed steps) due ∧
          ∃ janitor ∈ janitorsIn own steps step,
            janitor.IsDueAt due ∧ due < step.horizon (CacheStep.elapsed steps) janitor := by
  rw [history_concat, List.mem_append, tick_mem_events_iff (hasPeriods_reached own steps),
    clock_reached]
  rfl

/-- The ticks of a run and what its janitors are still to do keep to the schedule. -/
structure KeepsSchedule
    (own : Nat)
    (steps : List CacheStep) : Prop where
  /-- What is left to do is scheduled. -/
  pending : ∀ janitor ∈ ((begin own).run steps).2.janitors, ∀ due,
    janitor.IsDueAt due → CacheStep.IsScheduled steps due
  /-- A janitor is behind the clock only when the clock has just been moved. -/
  behind : ∀ janitor ∈ ((begin own).run steps).2.janitors,
    CacheStep.elapsed steps ≤ janitor.next ∨ CacheStep.HasJustSkipped steps janitor.next
  /-- What was done was scheduled. -/
  scheduled : ∀ due moment, .tick due moment ∈ (begin own).history steps →
    CacheStep.IsScheduled steps due
  /-- Nothing was done early, and late only when the clock was moved past it. -/
  punctual : ∀ due moment, .tick due moment ∈ (begin own).history steps →
    due ≤ moment ∧ (moment ≠ due → CacheStep.IsSkipped steps due)
  /-- What is scheduled was done or is left to do. -/
  covered : ∀ due, CacheStep.IsScheduled steps due →
    (∃ moment, .tick due moment ∈ (begin own).history steps) ∨
      ∃ janitor ∈ ((begin own).run steps).2.janitors, janitor.IsDueAt due

namespace KeepsSchedule

theorem nil
    (own : Nat) :
    KeepsSchedule own [] where
  pending := by simp [begin]
  behind := by simp [begin]
  scheduled := by simp
  punctual := by simp
  covered := by simp [CacheStep.IsScheduled]

/-- What is due in a further step is scheduled. -/
theorem isScheduled_of_isDueAt
    (keeps : KeepsSchedule own steps)
    {janitor : Janitor}
    (member : janitor ∈ janitorsIn own steps step)
    {due : Nat}
    (isDue : janitor.IsDueAt due) :
    CacheStep.IsScheduled (steps ++ [step]) due := by
  rw [CacheStep.isScheduled_concat_iff]
  rcases List.mem_append.mp member with before | started
  · exact .inl (keeps.pending janitor before due isDue)
  · exact .inr ⟨janitor, started, isDue⟩

/-- What is overdue before a further step is so because the clock has just been
moved. -/
theorem hasJustSkipped_of_isDueAt
    (keeps : KeepsSchedule own steps)
    {janitor : Janitor}
    (member : janitor ∈ janitorsIn own steps step)
    {due : Nat}
    (isDue : janitor.IsDueAt due)
    (overdue : due < CacheStep.elapsed steps) :
    CacheStep.HasJustSkipped steps due := by
  have next := Janitor.next_le_of_isDueAt isDue
  rcases List.mem_append.mp member with before | started
  · rcases keeps.behind janitor before with ahead | skipped
    · omega
    · exact skipped.mono next
  · have ahead := CacheStep.lt_next_of_mem_started started
    omega

/-- A further step leaves no janitor behind, unless it moves the clock or takes no
time. -/
theorem behind_concat
    (keeps : KeepsSchedule own steps)
    {janitor : Janitor}
    (member : janitor ∈ janitorsIn own steps step) :
    let after := janitor.skipTo (step.horizon (CacheStep.elapsed steps) janitor)
    CacheStep.elapsed (steps ++ [step]) ≤ after.next ∨
      CacheStep.HasJustSkipped (steps ++ [step]) after.next := by
  intro after
  have served : step.horizon (CacheStep.elapsed steps) janitor ≤ after.next :=
    Janitor.le_next_skipTo (period_pos_of_mem_janitorsIn member) _
  have unserved (none : step.horizon (CacheStep.elapsed steps) janitor = 0) : after = janitor :=
    Janitor.skipTo_eq_self (none ▸ Nat.zero_le _)
  rw [CacheStep.elapsed_append, CacheStep.elapsed_singleton]
  cases step with
  | sleep duration => exact .inl (Nat.le_trans (Nat.le_max_right _ _) served)
  | startJanitor period => exact .inl (Nat.le_trans (Nat.le_max_right _ _) served)
  | advance duration =>
      rw [CacheStep.duration]
      by_cases late : janitor.next ≤ CacheStep.elapsed steps
      · rw [CacheStep.horizon, if_pos late] at served
        exact .inl (by omega)
      · rw [unserved (if_neg late)]
        rcases Nat.lt_or_ge janitor.next (CacheStep.elapsed steps + duration) with passed | ahead
        · exact .inr ⟨steps, duration, [], rfl, rfl, by omega⟩
        · exact .inl ahead
  | _ =>
      rw [unserved rfl]
      rcases keeps.behind janitor (by simpa [janitorsIn, CacheStep.started] using member)
        with ahead | skipped
      · exact .inl ahead
      · exact .inr (skipped.concat rfl)

/-- A purge in a further step is not early, and late only when the clock was moved
past it. -/
theorem punctual_concat
    (keeps : KeepsSchedule own steps)
    {janitor : Janitor}
    (member : janitor ∈ janitorsIn own steps step)
    {due : Nat}
    (isDue : janitor.IsDueAt due)
    (before : due < step.horizon (CacheStep.elapsed steps) janitor) :
    due ≤ step.served (CacheStep.elapsed steps) due ∧
      (step.served (CacheStep.elapsed steps) due ≠ due →
        CacheStep.IsSkipped (steps ++ [step]) due) := by
  have overdue (late : due < CacheStep.elapsed steps) : CacheStep.IsSkipped (steps ++ [step]) due :=
    ((keeps.hasJustSkipped_of_isDueAt member isDue late).isSkipped late).concat step
  have atOnce :
      due ≤ max due (CacheStep.elapsed steps) ∧
        (max due (CacheStep.elapsed steps) ≠ due → CacheStep.IsSkipped (steps ++ [step]) due) :=
    ⟨Nat.le_max_left _ _, fun late => overdue (by omega)⟩
  cases step with
  | advance duration =>
      rw [CacheStep.horizon] at before
      split at before
      · rw [CacheStep.served]
        refine ⟨by omega, fun late => ?_⟩
        rcases Nat.lt_or_ge due (CacheStep.elapsed steps) with behind | ahead
        · exact overdue behind
        · exact ⟨steps, duration, [], rfl, ahead, by omega⟩
      · exact absurd before (Nat.not_lt_zero due)
  | _ => exact atOnce

theorem concat
    (keeps : KeepsSchedule own steps)
    (step : CacheStep) :
    KeepsSchedule own (steps ++ [step]) where
  pending := by
    intro janitor member due isDue
    rw [janitors_run_concat] at member
    obtain ⟨earlier, earlierMember, rfl⟩ := List.mem_map.mp member
    have isDueBefore :=
      (Janitor.isDueAt_skipTo_iff (period_pos_of_mem_janitorsIn earlierMember)).mp isDue
    exact keeps.isScheduled_of_isDueAt earlierMember isDueBefore.1
  behind := by
    intro janitor member
    rw [janitors_run_concat] at member
    obtain ⟨earlier, earlierMember, rfl⟩ := List.mem_map.mp member
    exact keeps.behind_concat earlierMember
  scheduled := by
    intro due moment happened
    rcases tick_mem_history_concat_iff.mp happened with before | ⟨-, janitor, member, isDue, -⟩
    · exact CacheStep.isScheduled_concat_iff.mpr (.inl (keeps.scheduled due moment before))
    · exact keeps.isScheduled_of_isDueAt member isDue
  punctual := by
    intro due moment happened
    rcases tick_mem_history_concat_iff.mp happened with
      before | ⟨rfl, janitor, member, isDue, before⟩
    · obtain ⟨notEarly, late⟩ := keeps.punctual due moment before
      exact ⟨notEarly, fun differs => (late differs).concat step⟩
    · exact keeps.punctual_concat member isDue before
  covered := by
    intro due isScheduled
    have doneOrDue : (∃ moment, .tick due moment ∈ (begin own).history steps) ∨
        ∃ janitor ∈ janitorsIn own steps step, janitor.IsDueAt due := by
      rcases CacheStep.isScheduled_concat_iff.mp isScheduled with before | ⟨janitor, started, isDue⟩
      · rcases keeps.covered due before with done | ⟨janitor, member, isDue⟩
        · exact .inl done
        · exact .inr ⟨janitor, List.mem_append_left _ member, isDue⟩
      · exact .inr ⟨janitor, List.mem_append_right _ started, isDue⟩
    simp only [tick_mem_history_concat_iff, janitors_run_concat, List.mem_map,
      exists_exists_and_eq_and]
    rcases doneOrDue with ⟨moment, done⟩ | ⟨janitor, member, isDue⟩
    · exact .inl ⟨moment, .inl done⟩
    · rcases Nat.lt_or_ge due (step.horizon (CacheStep.elapsed steps) janitor) with now | later
      · exact .inl ⟨_, .inr ⟨rfl, janitor, member, isDue, now⟩⟩
      · have period := period_pos_of_mem_janitorsIn member
        exact .inr ⟨janitor, member, (Janitor.isDueAt_skipTo_iff period).mpr ⟨isDue, later⟩⟩

end KeepsSchedule

/-- Every run keeps to the schedule of its janitors. -/
theorem keepsSchedule
    (own : Nat)
    (steps : List CacheStep) :
    KeepsSchedule own steps := by
  induction steps using List.reverseRecOn with
  | nil => exact .nil own
  | append_singleton steps step inductionHypothesis => exact inductionHypothesis.concat step

end CacheTimeline
end FleetDashboard
