import FleetDashboard.Cache.Janitor

/-!
# Runs of a cache

A run is a sequence of steps on one timeline: texts are looked up and written,
dead entries are purged by hand or by janitors, and time passes.
-/

namespace FleetDashboard

/-- One step on a cache. -/
inductive CacheStep where
  | get
      (key : String)
  /-- Write under the cache's own lifetime. -/
  | set
      (key value : String)
  /-- Write under a lifetime of its own. -/
  | setFor
      (key value : String)
      (lifetime : Nat)
  | purge
  | count
  /-- Move the clock at once. -/
  | advance
      (duration : Nat)
  /-- Let time pass, with purges in between. -/
  | sleep
      (duration : Nat)
  | startJanitor
      (period : Nat)
  deriving DecidableEq, Repr

/-- What a step on a cache yields. -/
inductive CacheAnswer where
  /-- The text that was looked up. -/
  | found
      (value : Option String)
  /-- Count of dropped entries. -/
  | purged
      (count : Nat)
  /-- Count of held entries, dead ones included. -/
  | size
      (count : Nat)
  | done
  deriving DecidableEq, Repr

namespace CacheTimeline

/-- The timeline with another cache. -/
def withCache
    (timeline : CacheTimeline)
    (cache : Cache) : CacheTimeline :=
  { timeline with cache := cache }

/-- Take one step. -/
def step
    (timeline : CacheTimeline) : CacheStep → CacheAnswer × CacheTimeline
  | .get key => (.found (timeline.cache.lookup timeline.clock key), timeline)
  | .set key value =>
      (.done, timeline.withCache (timeline.cache.write timeline.clock key value))
  | .setFor key value lifetime =>
      (.done, timeline.withCache (timeline.cache.writeFor timeline.clock key value lifetime))
  | .purge =>
      (.purged (timeline.cache.purgeable timeline.clock),
        timeline.withCache (timeline.cache.purge timeline.clock))
  | .count => (.size timeline.cache.size, timeline)
  | .advance duration =>
      let timeline := timeline.advance duration
      (.size timeline.cache.size, timeline)
  | .sleep duration =>
      let timeline := timeline.sleep duration
      (.size timeline.cache.size, timeline)
  | .startJanitor period => (.done, timeline.startJanitor period)

/-- Take steps one after the other. -/
def run : CacheTimeline → List CacheStep → List CacheAnswer × CacheTimeline
  | timeline, [] => ([], timeline)
  | timeline, step :: rest =>
      let (answer, timeline) := timeline.step step
      let (answers, timeline) := timeline.run rest
      (answer :: answers, timeline)

@[simp] theorem run_nil
    (timeline : CacheTimeline) :
    timeline.run [] = ([], timeline) := rfl

@[simp] theorem run_cons
    (timeline : CacheTimeline)
    (step : CacheStep)
    (rest : List CacheStep) :
    timeline.run (step :: rest) =
      ((timeline.step step).1 :: ((timeline.step step).2.run rest).1,
        ((timeline.step step).2.run rest).2) := rfl

theorem run_append
    (timeline : CacheTimeline)
    (front back : List CacheStep) :
    timeline.run (front ++ back) =
      ((timeline.run front).1 ++ ((timeline.run front).2.run back).1,
        ((timeline.run front).2.run back).2) := by
  induction front generalizing timeline with
  | nil => simp
  | cons step rest inductionHypothesis => simp [inductionHypothesis]

@[simp] theorem length_run
    (timeline : CacheTimeline)
    (steps : List CacheStep) :
    (timeline.run steps).1.length = steps.length := by
  induction steps generalizing timeline with
  | nil => rfl
  | cons step rest inductionHypothesis => simp [inductionHypothesis]

end CacheTimeline
end FleetDashboard
