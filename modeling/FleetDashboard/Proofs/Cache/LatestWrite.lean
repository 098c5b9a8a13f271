import FleetDashboard.Cache.Run
import FleetDashboard.Proofs.Cache.Timeline
import Mathlib.Algebra.Order.Ring.Int
import Mathlib.Data.List.Induction

/-!
# A cache shows the latest write while it lives

The runs of a cache are compared with their history of writes.  A look-up shows
the text that was written last under its key, until the lifetime of that write
is over; purges and janitors are never noticed by a reader.
-/

namespace FleetDashboard

/-- A write to a cache and the lifetime that it asks for. -/
structure CacheWrite where
  key : String
  value : String
  lifetime : Nat
  deriving DecidableEq, Repr

namespace CacheWrite

/-- What a reader of a key sees after a write: the written text while it lives,
or what was there before when the write went to another key. -/
def overlay
    (write : CacheWrite)
    (moment now : Nat)
    (key : String)
    (earlier : Option String) : Option String :=
  if key = write.key then
    if now < moment + min write.lifetime Cache.longestLifetime then some write.value else none
  else earlier

end CacheWrite

namespace CacheStep

/-- The write that a step makes to a cache with a lifetime of its own. -/
def write?
    (own : Nat) : CacheStep → Option CacheWrite
  | .set key value => some ⟨key, value, own⟩
  | .setFor key value lifetime => some ⟨key, value, lifetime⟩
  | _ => none

/-- The time that a step takes. -/
def duration : CacheStep → Nat
  | .advance duration => duration
  | .sleep duration => duration
  | .startJanitor _ => CacheTimeline.startup
  | _ => 0

/-- The time that steps take together. -/
def elapsed
    (steps : List CacheStep) : Nat :=
  (steps.map duration).sum

/-- The step without what it purges: time passes as it would, but no entry is
dropped by hand and no janitor is started. -/
def withoutPurge : CacheStep → List CacheStep
  | .purge => []
  | .startJanitor _ => [.advance CacheTimeline.startup]
  | step => [step]

@[simp] theorem elapsed_nil : elapsed [] = 0 := rfl

@[simp] theorem elapsed_append
    (front back : List CacheStep) :
    elapsed (front ++ back) = elapsed front + elapsed back := by
  simp [elapsed]

@[simp] theorem elapsed_singleton
    (step : CacheStep) :
    elapsed [step] = step.duration := by
  simp [elapsed]

end CacheStep

/-- The text that a look-up found, for the answer of a look-up. -/
def CacheAnswer.found? : CacheAnswer → Option (Option String)
  | .found value => some value
  | _ => none

/-- In a run of steps a key was written last by `write`, at `moment`. -/
inductive LatestWrite
    (own : Nat)
    (key : String) : List CacheStep → CacheWrite → Nat → Prop
  | made
      {before after : List CacheStep}
      {step : CacheStep}
      {write : CacheWrite}
      (writes : step.write? own = some write)
      (sameKey : write.key = key)
      (noneLater : ∀ later ∈ after, ∀ other, later.write? own = some other → other.key ≠ key) :
      LatestWrite own key (before ++ step :: after) write (CacheStep.elapsed before)

namespace LatestWrite

theorem not_nil
    {own : Nat}
    {key : String}
    {write : CacheWrite}
    {moment : Nat} :
    ¬LatestWrite own key [] write moment := by
  intro latest
  generalize empty : ([] : List CacheStep) = steps at latest
  cases latest
  simp at empty

/-- After one more step the latest write is that of the step, or the step wrote
elsewhere and the latest write is still the one before it. -/
theorem concat_iff
    {own : Nat}
    {key : String}
    {steps : List CacheStep}
    {step : CacheStep}
    {write : CacheWrite}
    {moment : Nat} :
    LatestWrite own key (steps ++ [step]) write moment ↔
      (step.write? own = some write ∧ write.key = key ∧ moment = CacheStep.elapsed steps) ∨
        ((∀ other, step.write? own = some other → other.key ≠ key) ∧
          LatestWrite own key steps write moment) := by
  constructor
  · generalize whole : steps ++ [step] = run
    rintro ⟨writes, sameKey, noneLater⟩
    rename_i before after maker
    rcases List.eq_nil_or_concat after with none | ⟨rest, last, rfl⟩
    · subst none
      obtain ⟨rfl, sameStep⟩ := List.append_inj' whole rfl
      obtain rfl : step = maker := by simpa using sameStep
      exact .inl ⟨writes, sameKey, rfl⟩
    · have regrouped : steps ++ [step] = (before ++ maker :: rest) ++ [last] := by
        simpa using whole
      obtain ⟨rfl, sameStep⟩ := List.append_inj' regrouped rfl
      obtain rfl : step = last := by simpa using sameStep
      right
      refine ⟨noneLater step (by simp), made writes sameKey ?_⟩
      intro later member
      exact noneLater later (by simp [member])
  · rintro (⟨writes, sameKey, rfl⟩ | ⟨elsewhere, ⟨writes, sameKey, noneLater⟩⟩)
    · exact made writes sameKey (by simp)
    · rename_i before after maker
      rw [List.append_assoc, List.cons_append]
      refine made writes sameKey ?_
      intro later member
      rcases List.mem_append.mp member with inAfter | isStep
      · exact noneLater later inAfter
      · obtain rfl : later = step := by simpa using isStep
        exact elsewhere

/-- A step that writes the key makes its latest write. -/
theorem concat_of_write
    {own : Nat}
    {steps : List CacheStep}
    {step : CacheStep}
    {written write : CacheWrite}
    {moment : Nat}
    (writes : step.write? own = some written) :
    LatestWrite own written.key (steps ++ [step]) write moment ↔
      write = written ∧ moment = CacheStep.elapsed steps := by
  rw [concat_iff, writes]
  constructor
  · rintro (⟨sameWrite, _, sameMoment⟩ | ⟨elsewhere, _⟩)
    · exact ⟨(Option.some.inj sameWrite).symm, sameMoment⟩
    · exact absurd rfl (elsewhere written rfl)
  · rintro ⟨rfl, sameMoment⟩
    exact .inl ⟨rfl, rfl, sameMoment⟩

/-- A step that does not write the key leaves its latest write as it is. -/
theorem concat_of_ne
    {own : Nat}
    {key : String}
    {steps : List CacheStep}
    {step : CacheStep}
    {write : CacheWrite}
    {moment : Nat}
    (elsewhere : ∀ other, step.write? own = some other → other.key ≠ key) :
    LatestWrite own key (steps ++ [step]) write moment ↔
      LatestWrite own key steps write moment := by
  rw [concat_iff]
  constructor
  · rintro (⟨writes, sameKey, _⟩ | ⟨_, earlier⟩)
    · exact absurd sameKey (elsewhere write writes)
    · exact earlier
  · intro earlier
    exact .inr ⟨elsewhere, earlier⟩

end LatestWrite

namespace CacheTimeline

/-! ## What one step does -/

@[simp] theorem clock_step
    (timeline : CacheTimeline)
    (step : CacheStep) :
    (timeline.step step).2.clock = timeline.clock + step.duration := by
  cases step <;> simp [CacheTimeline.step, CacheStep.duration]

@[simp] theorem lifetime_step
    (timeline : CacheTimeline)
    (step : CacheStep) :
    (timeline.step step).2.cache.lifetime = timeline.cache.lifetime := by
  cases step <;> simp [CacheTimeline.step]

/-- Only a write changes what a reader sees who comes after a step. -/
theorem lookup_step
    (timeline : CacheTimeline)
    (step : CacheStep)
    {now : Nat}
    (notBefore : timeline.clock + step.duration ≤ now)
    (key : String) :
    (timeline.step step).2.cache.lookup now key =
      match step.write? timeline.cache.lifetime with
      | some write => write.overlay timeline.clock now key (timeline.cache.lookup now key)
      | none => timeline.cache.lookup now key := by
  have overlaid
      (written value : String)
      (lifetime : Nat) :
      (timeline.cache.writeFor timeline.clock written value lifetime).lookup now key =
        (⟨written, value, lifetime⟩ : CacheWrite).overlay timeline.clock now key
          (timeline.cache.lookup now key) := by
    unfold CacheWrite.overlay
    by_cases sameKey : key = written
    · subst key
      rw [if_pos rfl, Cache.lookup_writeFor_self]
    · rw [if_neg sameKey, Cache.lookup_writeFor_of_ne _ _ _ sameKey]
  cases step with
  | get => rfl
  | set written value => exact overlaid written value timeline.cache.lifetime
  | setFor written value lifetime => exact overlaid written value lifetime
  | purge => exact Cache.lookup_purge_of_le timeline.cache notBefore key
  | count => rfl
  | advance duration => exact lookup_advance timeline duration notBefore key
  | sleep duration => exact lookup_sleep timeline duration notBefore key
  | startJanitor period => exact lookup_startJanitor timeline period notBefore key

/-! ## What a run shows -/

theorem run_concat
    (timeline : CacheTimeline)
    (steps : List CacheStep)
    (step : CacheStep) :
    (timeline.run (steps ++ [step])).2 = ((timeline.run steps).2.step step).2 := by
  rw [run_append, run_cons, run_nil]

theorem clock_run
    (timeline : CacheTimeline)
    (steps : List CacheStep) :
    (timeline.run steps).2.clock = timeline.clock + CacheStep.elapsed steps := by
  induction steps using List.reverseRecOn with
  | nil => rfl
  | append_singleton steps step inductionHypothesis =>
      rw [run_concat, clock_step, inductionHypothesis, CacheStep.elapsed_append,
        CacheStep.elapsed_singleton, Nat.add_assoc]

theorem lifetime_run
    (timeline : CacheTimeline)
    (steps : List CacheStep) :
    (timeline.run steps).2.cache.lifetime = timeline.cache.lifetime := by
  induction steps using List.reverseRecOn with
  | nil => rfl
  | append_singleton steps step inductionHypothesis =>
      rw [run_concat, lifetime_step, inductionHypothesis]

/-- After a run of steps a text is visible exactly when the latest write of its
key wrote it and still lives. -/
theorem lookup_run_iff
    (own : Nat)
    (steps : List CacheStep)
    {now : Nat}
    (notBefore : CacheStep.elapsed steps ≤ now)
    (key value : String) :
    ((begin own).run steps).2.cache.lookup now key = some value ↔
      ∃ write moment, LatestWrite own key steps write moment ∧
        write.value = value ∧ now < moment + min write.lifetime Cache.longestLifetime := by
  induction steps using List.reverseRecOn with
  | nil => simp [LatestWrite.not_nil]
  | append_singleton steps step inductionHypothesis =>
      rw [CacheStep.elapsed_append, CacheStep.elapsed_singleton] at notBefore
      have earlier := inductionHypothesis (by omega)
      have clock : ((begin own).run steps).2.clock = CacheStep.elapsed steps := by
        rw [clock_run, clock_begin, Nat.zero_add]
      have lifetime : ((begin own).run steps).2.cache.lifetime = own := lifetime_run _ _
      rw [run_concat, lookup_step _ _ (by rw [clock]; exact notBefore), lifetime, clock]
      cases writes : step.write? own with
      | none =>
          have elsewhere : ∀ other, step.write? own = some other → other.key ≠ key := by
            simp [writes]
          simp only [LatestWrite.concat_of_ne elsewhere]
          exact earlier
      | some written =>
          dsimp only [CacheWrite.overlay]
          by_cases sameKey : key = written.key
          · subst key
            simp only [LatestWrite.concat_of_write writes, if_true]
            constructor
            · intro shown
              obtain ⟨live, sameValue⟩ := Option.ite_none_right_eq_some.mp shown
              exact ⟨written, _, ⟨rfl, rfl⟩, Option.some.inj sameValue, live⟩
            · rintro ⟨_, _, ⟨rfl, rfl⟩, rfl, live⟩
              rw [if_pos live]
          · have elsewhere : ∀ other, step.write? own = some other → other.key ≠ key := by
              intro other otherWrites
              obtain rfl : written = other := by simpa [writes] using otherWrites
              exact Ne.symm sameKey
            simp only [LatestWrite.concat_of_ne elsewhere, if_neg sameKey]
            exact earlier

/-! ## Purges are not noticed -/

/-- Two timelines that stand at the same time and show the same to every reader
from then on. -/
structure SameView
    (left right : CacheTimeline) : Prop where
  clock : left.clock = right.clock
  lifetime : left.cache.lifetime = right.cache.lifetime
  lookup : ∀ now, left.clock ≤ now → ∀ key,
    left.cache.lookup now key = right.cache.lookup now key

namespace SameView

theorem refl
    (timeline : CacheTimeline) :
    SameView timeline timeline :=
  ⟨rfl, rfl, fun _ _ _ => rfl⟩

/-- Steps that write the same and take the same time keep views the same. -/
theorem step
    {left right : CacheTimeline}
    (same : SameView left right)
    {first second : CacheStep}
    (sameWrite : ∀ own, first.write? own = second.write? own)
    (sameDuration : first.duration = second.duration) :
    SameView (left.step first).2 (right.step second).2 where
  clock := by rw [clock_step, clock_step, same.clock, sameDuration]
  lifetime := by rw [lifetime_step, lifetime_step, same.lifetime]
  lookup := by
    intro now notBefore key
    rw [clock_step] at notBefore
    have notBeforeRight : right.clock + second.duration ≤ now := by
      rw [← same.clock, ← sameDuration]
      exact notBefore
    rw [lookup_step left first notBefore, lookup_step right second notBeforeRight,
      sameWrite, same.lifetime, same.clock, same.lookup now (by omega) key]

/-- A purge on one side keeps views the same. -/
theorem purge
    {left right : CacheTimeline}
    (same : SameView left right) :
    SameView (left.step .purge).2 right where
  clock := same.clock
  lifetime := same.lifetime
  lookup := by
    intro now notBefore key
    have notBeforeLeft : left.clock ≤ now := notBefore
    rw [lookup_step left .purge notBeforeLeft]
    exact same.lookup now notBeforeLeft key

/-- The same look-up finds the same. -/
theorem found_step
    {left right : CacheTimeline}
    (same : SameView left right)
    (step : CacheStep) :
    (right.step step).1.found? = (left.step step).1.found? := by
  cases step with
  | get key =>
      have sameText := same.lookup left.clock (Nat.le_refl _) key
      change some (right.cache.lookup right.clock key) = some (left.cache.lookup left.clock key)
      rw [← same.clock, sameText]
  | _ => rfl

/-- A step and what remains of it without its purge find the same and keep views
the same. -/
theorem withoutPurge
    {left right : CacheTimeline}
    (same : SameView left right)
    (step : CacheStep) :
    (right.run step.withoutPurge).1.filterMap CacheAnswer.found? =
        [(left.step step).1].filterMap CacheAnswer.found? ∧
      SameView (left.step step).2 (right.run step.withoutPurge).2 := by
  have kept :
      (right.run [step]).1.filterMap CacheAnswer.found? =
          [(left.step step).1].filterMap CacheAnswer.found? ∧
        SameView (left.step step).2 (right.run [step]).2 := by
    refine ⟨?_, same.step (fun _ => rfl) rfl⟩
    rw [run_cons, run_nil, List.filterMap_cons, List.filterMap_cons, same.found_step step]
  cases step with
  | purge => exact ⟨rfl, same.purge⟩
  | startJanitor period =>
      have moved : SameView (left.step (.startJanitor period)).2
          (right.step (.advance startup)).2 :=
        same.step (fun _ => rfl) rfl
      exact ⟨rfl, moved⟩
  | _ => exact kept

/-- The look-ups of a run answer as they do without its purges. -/
theorem found_run_withoutPurge
    {left right : CacheTimeline}
    (same : SameView left right)
    (steps : List CacheStep) :
    (right.run (steps.flatMap CacheStep.withoutPurge)).1.filterMap CacheAnswer.found? =
      (left.run steps).1.filterMap CacheAnswer.found? := by
  induction steps generalizing left right with
  | nil => rfl
  | cons step rest inductionHypothesis =>
      obtain ⟨sameFound, sameAfter⟩ := same.withoutPurge step
      rw [List.flatMap_cons, run_append, run_cons, List.filterMap_append, sameFound,
        inductionHypothesis sameAfter, ← List.filterMap_append, List.singleton_append]

end SameView

/-- Every look-up in a run shows the latest write of its key while that lives,
and nothing otherwise; and the look-ups answer as they do when nothing is ever
purged. -/
theorem lookups_show_latest_live_write
    (own : Nat) :
    (∀ front key back, ∃ shown,
      ((begin own).run (front ++ .get key :: back)).1[front.length]? = some (.found shown) ∧
        ∀ value, shown = some value ↔
          ∃ write moment, LatestWrite own key front write moment ∧ write.value = value ∧
            CacheStep.elapsed front < moment + min write.lifetime Cache.longestLifetime) ∧
    ∀ steps : List CacheStep,
      ((begin own).run (steps.flatMap CacheStep.withoutPurge)).1.filterMap CacheAnswer.found? =
        ((begin own).run steps).1.filterMap CacheAnswer.found? := by
  refine ⟨?_, SameView.found_run_withoutPurge (SameView.refl (begin own))⟩
  intro front key back
  let reached := ((begin own).run front).2
  refine ⟨reached.cache.lookup reached.clock key, ?_, ?_⟩
  · rw [run_append, run_cons, List.getElem?_append_right (by simp)]
    simp [CacheTimeline.step, reached]
  · intro value
    have clock : reached.clock = CacheStep.elapsed front := by
      rw [clock_run, clock_begin, Nat.zero_add]
    rw [clock]
    exact lookup_run_iff own front (Nat.le_refl _) key value

/-- An overwrite that asks for less ends the earlier text, and itself at the
very moment its lifetime is over. -/
example :
    ((begin 60).run
      [.set "k" "first", .advance 59, .get "k", .setFor "k" "second" 10, .advance 9, .get "k",
        .advance 1, .get "k"]).1.filterMap CacheAnswer.found? =
      [some "first", some "second", none] := by
  decide

end CacheTimeline
end FleetDashboard
