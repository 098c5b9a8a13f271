import FleetDashboard.Cache.Basic

/-!
# Periodic purging

A janitor purges a cache at a fixed period, for the first time one period after
it starts.  The cache, its clock and its janitors form one timeline.  When time
passes, each due purge happens at its own moment; a purge due at the very moment
the waiting party resumes happens after that party's next steps.  Time is counted
in nanoseconds, and timers are taken to be exact.
-/

namespace FleetDashboard

/-- A running janitor: its period and the moment of its next purge. -/
structure Janitor where
  period : Nat
  next : Nat
  deriving DecidableEq, Repr

namespace Janitor

/-- Shortest period, in nanoseconds: one second. -/
def shortestPeriod : Nat := 1000000000

/-- A janitor that starts now. -/
def start
    (now period : Nat) : Janitor :=
  let period := max period shortestPeriod
  ⟨period, now + period⟩

/-- Count of purges due before a moment. -/
def dueBefore
    (janitor : Janitor)
    (moment : Nat) : Nat :=
  if janitor.next < moment then (moment - 1 - janitor.next) / janitor.period + 1
  else 0

/-- The moment of the last purge due before a moment. -/
def lastBefore?
    (janitor : Janitor)
    (moment : Nat) : Option Nat :=
  match janitor.dueBefore moment with
  | 0 => none
  | count + 1 => some (janitor.next + count * janitor.period)

/-- The janitor after its purges before a moment. -/
def skipTo
    (janitor : Janitor)
    (moment : Nat) : Janitor :=
  ⟨janitor.period, janitor.next + janitor.dueBefore moment * janitor.period⟩

end Janitor

/-- A cache, its clock and its janitors. -/
structure CacheTimeline where
  cache : Cache
  clock : Nat
  janitors : List Janitor

namespace CacheTimeline

/-- An empty cache at the beginning of time. -/
def begin
    (lifetime : Nat) : CacheTimeline :=
  ⟨Cache.empty lifetime, 0, []⟩

/-- The purge of one janitor that is late by the time it runs. -/
def serveLate
    (now : Nat)
    (timeline : CacheTimeline) : CacheTimeline :=
  if timeline.janitors.any fun janitor => janitor.next ≤ timeline.clock then
    { timeline with
      cache := timeline.cache.purge now
      janitors := timeline.janitors.map fun janitor =>
        if janitor.next ≤ timeline.clock then janitor.skipTo (now + 1) else janitor }
  else timeline

/-- Let time pass; purges happen in between. -/
def sleep
    (timeline : CacheTimeline)
    (duration : Nat) : CacheTimeline :=
  let timeline := timeline.serveLate timeline.clock
  let finish := timeline.clock + duration
  let cache :=
    match (timeline.janitors.filterMap fun janitor => janitor.lastBefore? finish).max? with
    | some moment => timeline.cache.purge moment
    | none => timeline.cache
  ⟨cache, finish, timeline.janitors.map fun janitor => janitor.skipTo finish⟩

/-- Move the clock at once.  Only purges that were already late happen. -/
def advance
    (timeline : CacheTimeline)
    (duration : Nat) : CacheTimeline :=
  let served := timeline.serveLate (timeline.clock + duration)
  { served with clock := timeline.clock + duration }

/-- The time that a new janitor is given to begin, in nanoseconds: one millisecond. -/
def startup : Nat := 1000000

/-- Start a janitor and let it begin. -/
def startJanitor
    (timeline : CacheTimeline)
    (period : Nat) : CacheTimeline :=
  { timeline with
    janitors := timeline.janitors ++ [Janitor.start timeline.clock period] }.sleep startup

end CacheTimeline
end FleetDashboard
