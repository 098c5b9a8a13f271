import FleetDashboard.Proofs.Chart.Month
import FleetDashboard.Proofs.Text.Digits
import Mathlib.Data.List.Perm.Basic
import Mathlib.Data.List.Nodup

/-!
# The histogram of a month

A histogram tallies events by their day and walks from the first day of its window to
the last, one day after the other.  The walk meets thirty-one days also where the
calendar ends, and each day that has begun shows the number of its events.
-/

namespace FleetDashboard

open Calendar Text

/-! ## The tally of events -/

/-- How many events have been counted on each day. -/
abbrev DayTally := Date → Nat

namespace DayTally

/-- Count one more event on its day. -/
def add
    (tally : DayTally)
    (event : Instant) : DayTally :=
  fun day => if event.date = day then tally day + 1 else tally day

/-- Count events one after the other. -/
def ofEvents
    (events : List Instant) : DayTally :=
  events.foldl add fun _ => 0

theorem foldl_add
    (events : List Instant)
    (tally : DayTally)
    (day : Date) :
    events.foldl add tally day = tally day + MonthHistogram.eventsOn events day := by
  induction events generalizing tally with
  | nil => simp [MonthHistogram.eventsOn]
  | cons event events inductionHypothesis =>
      rw [List.foldl_cons, inductionHypothesis, add, MonthHistogram.eventsOn,
        MonthHistogram.eventsOn, List.countP_cons]
      simp only [beq_iff_eq]
      split <;> omega

theorem ofEvents_eq
    (events : List Instant) :
    ofEvents events = MonthHistogram.eventsOn events := by
  funext day
  rw [ofEvents, foldl_add, Nat.zero_add]

end DayTally

/-! ## The walk over days -/

/-- The days from one on, each found as the next one of the day before it.  The walk
ends behind the last day, and where a day has no next one. -/
def Calendar.Date.walk
    (last day : Date) : List Date :=
  if day ≤ last then
    day ::
      match _next : day.addDays? 1 with
      | some other => walk last other
      | none => []
  else []
termination_by (last.day + 1 - day.day).toNat
decreasing_by
  rename_i notBehind
  have after : other.day = day.day + 1 := by
    simp only [addDays?] at _next
    split at _next <;> cases _next
    rfl
  rw [le_iff] at notBehind
  omega

namespace Calendar.Date

theorem walk_of_lt
    {last day : Date}
    (behind : last < day) :
    walk last day = [] := by
  have notBefore : ¬day ≤ last := Int.not_le.mpr behind
  rw [walk, if_neg notBefore]

theorem walk_of_le
    {last day : Date}
    (notBehind : day ≤ last) :
    walk last day =
      day :: if (⟨day.day + 1⟩ : Date).isRepresented then walk last ⟨day.day + 1⟩ else [] := by
  rw [walk, if_pos notBehind]
  congr 1
  split
  · rename_i next other
    simp only [addDays?, Int.natCast_one] at other
    split at other <;> cases other
    rename_i represented
    rw [if_pos represented]
  · rename_i other
    simp only [addDays?, Int.natCast_one] at other
    split at other <;> cases other
    rename_i unrepresented
    rw [if_neg unrepresented]

/-- A walk meets every day up to the last one, if all of them are represented. -/
theorem walk_eq
    (count : Nat)
    (day : Date)
    (represented : ∀ offset ≤ count, (⟨day.day + (offset : Nat)⟩ : Date).isRepresented = true) :
    walk ⟨day.day + count⟩ day =
      (List.range (count + 1)).map fun (offset : Nat) => ⟨day.day + offset⟩ := by
  -- The walk goes on from the next day, so it is the first day that moves.
  induction count generalizing day with
  | zero =>
      have notBehind : day ≤ (⟨day.day + (0 : Nat)⟩ : Date) := by simp [le_iff]
      have behind : (⟨day.day + (0 : Nat)⟩ : Date) < ⟨day.day + 1⟩ := by simp [lt_iff]
      rw [walk_of_le notBehind, walk_of_lt behind]
      simp
  | succ count inductionHypothesis =>
      have notBehind : day ≤ (⟨day.day + (count + 1 : Nat)⟩ : Date) := by
        simp only [le_iff]
        omega
      have shifted : (⟨day.day + (count + 1 : Nat)⟩ : Date) = ⟨day.day + 1 + count⟩ :=
        congrArg Date.mk (by omega)
      have next : (⟨day.day + 1⟩ : Date).isRepresented = true := represented 1 (by omega)
      rw [walk_of_le notBehind, if_pos next, shifted, inductionHypothesis ⟨day.day + 1⟩]
      · rw [List.range_succ_eq_map (n := count + 1), List.map_cons, List.map_map]
        refine congrArg₂ List.cons (congrArg Date.mk (by omega)) (List.map_congr_left ?_)
        intro offset _
        exact congrArg Date.mk (by simp only [Nat.succ_eq_add_one]; omega)
      · intro offset bounded
        have later := represented (offset + 1) (by omega)
        rwa [Int.natCast_add, Int.natCast_one, Int.add_comm (offset : Int), ← Int.add_assoc]
          at later

end Calendar.Date

namespace MonthHistogram

/-- The histogram of a window, collected day by day from the tally of all events. -/
def collect
    (window : MonthWindow)
    (events : List Instant)
    (now : Instant) : MonthHistogram :=
  let days := Date.walk window.last window.first
  let tally := DayTally.ofEvents events
  { axis := days.map fun day => (Instant.midnight day).seconds
    counts := days.map fun day => if day ≤ now.date then some (tally day) else none }

section Window

variable
  {year : Int}
  {month : Nat}
  {now : Instant}
  {window : MonthWindow}

/-- The walk over a month's window meets its thirty-one days and ends. -/
theorem walk_window
    (accepted : MonthWindow.request year month now = .ok window) :
    Date.walk window.last window.first = window.days := by
  obtain ⟨begins, ends⟩ := MonthWindow.of_request accepted
  rw [ends]
  refine Date.walk_eq 30 window.first ?_
  intro offset bounded
  have later := Date.addDays?_first begins bounded
  simp only [Date.addDays?] at later
  split at later <;> cases later
  assumption

theorem collect_eq_ofWindow
    (accepted : MonthWindow.request year month now = .ok window)
    (events : List Instant) :
    collect window events now = ofWindow window events now := by
  rw [collect, walk_window accepted, DayTally.ofEvents_eq, ofWindow]
  rfl

end Window

/-! ## Sums and order -/

theorem countOn_of_perm
    {events others : List Instant}
    (sameEvents : events.Perm others)
    (today : Date) :
    countOn events today = countOn others today := by
  funext day
  rw [countOn, countOn, eventsOn, eventsOn, sameEvents.countP_eq]

theorem countP_or_of_disjoint
    (events : List Instant)
    {left right : Instant → Bool}
    (disjoint : ∀ event, left event = true → right event = false) :
    (events.countP fun event => left event || right event) =
      events.countP left + events.countP right := by
  induction events with
  | nil => rfl
  | cons event events inductionHypothesis =>
      rw [List.countP_cons, List.countP_cons, List.countP_cons, inductionHypothesis]
      have separate := disjoint event
      cases leftCounts : left event <;> cases rightCounts : right event <;> simp_all <;> omega

/-- The counts of distinct days add up to the events on those that have begun. -/
theorem sum_countOn
    (events : List Instant)
    (today : Date)
    {days : List Date}
    (distinct : days.Nodup) :
    (days.filterMap (countOn events today)).sum =
      events.countP fun event => decide (event.date ∈ days ∧ event.date ≤ today) := by
  induction days with
  | nil => simp
  | cons day days inductionHypothesis =>
      obtain ⟨fresh, distinct⟩ := List.nodup_cons.mp distinct
      by_cases begun : day ≤ today
      · have counted : countOn events today day = some (eventsOn events day) := if_pos begun
        rw [List.filterMap_cons_some counted, List.sum_cons, inductionHypothesis distinct,
          eventsOn, ← countP_or_of_disjoint]
        · refine List.countP_congr ?_
          intro event _
          simp only [Bool.or_eq_true, beq_iff_eq, decide_eq_true_eq, List.mem_cons]
          constructor
          · rintro (rfl | ⟨member, past⟩)
            · exact ⟨.inl rfl, begun⟩
            · exact ⟨.inr member, past⟩
          · rintro ⟨same | member, past⟩
            · exact .inl same
            · exact .inr ⟨member, past⟩
        · intro event sameDay
          obtain rfl := eq_of_beq sameDay
          simp [fresh]
      · have uncounted : countOn events today day = none := if_neg begun
        rw [List.filterMap_cons_none uncounted, inductionHypothesis distinct]
        refine List.countP_congr ?_
        intro event _
        simp only [decide_eq_true_eq, List.mem_cons]
        constructor
        · rintro ⟨member, past⟩
          exact ⟨.inr member, past⟩
        · rintro ⟨rfl | member, past⟩
          · exact absurd past begun
          · exact ⟨member, past⟩

end MonthHistogram

namespace MonthWindow

theorem nodup_days
    (window : MonthWindow) :
    window.days.Nodup := by
  refine List.Nodup.map ?_ List.nodup_range
  intro left right same
  have sameDay := congrArg Date.day same
  simp only at sameDay
  omega

theorem mem_days_iff
    {window : MonthWindow}
    (ends : window.last = ⟨window.first.day + 30⟩)
    {day : Date} :
    day ∈ window.days ↔ window.first ≤ day ∧ day ≤ window.last := by
  rw [days, List.mem_map, ends]
  simp only [List.mem_range, length, Date.le_iff]
  constructor
  · rintro ⟨offset, bounded, rfl⟩
    dsimp only
    omega
  · rintro ⟨notBefore, notAfter⟩
    have sum : window.first.day + ((day.day - window.first.day).toNat : Nat) = day.day := by
      omega
    exact ⟨(day.day - window.first.day).toNat, by omega, congrArg Date.mk sum⟩

end MonthWindow

namespace MonthHistogram

theorem natText_ne_empty
    (value : Nat) :
    natText value ≠ "" := by
  intro empty
  have characters := congrArg String.toList empty
  simp [natText, natDigits_ne_nil] at characters

/-- A cell is blank before its day has begun and shows the day's count after that. -/
theorem countText_countOn
    (events : List Instant)
    (today day : Date) :
    (countText (countOn events today day) = "" ↔ today < day) ∧
      (day ≤ today → countText (countOn events today day) = natText (eventsOn events day)) := by
  by_cases begun : day ≤ today
  · have counted : countOn events today day = some (eventsOn events day) := if_pos begun
    rw [counted]
    refine ⟨?_, fun _ => rfl⟩
    simp only [countText, natText_ne_empty, false_iff]
    exact Int.not_lt.mpr begun
  · have uncounted : countOn events today day = none := if_neg begun
    rw [uncounted]
    exact ⟨iff_of_true rfl (Int.not_le.mp begun), fun past => absurd past begun⟩

/-- The histogram of a month that can be shown is the one that is collected on a walk of
thirty-one days.  These follow one another from the first of the month on, so every day
of the month stands in its place.  Days that have not begun are blank, the others show
how many events fall on them; together they show the events of the window up to today,
in whatever order these come. -/
theorem request_exact
    {year : Int}
    {month : Nat}
    {now : Instant}
    {window : MonthWindow}
    (accepted : MonthWindow.request year month now = .ok window)
    (events : List Instant) :
    ∃ first histogram,
      Date.ofCivil? year month 1 = some first ∧
        request year month events now = .ok histogram ∧
        (histogram = collect window events now ∧
          (Date.walk window.last window.first).length = 31) ∧
        (histogram.axis = (List.range 31).map (fun (offset : Nat) =>
            (Instant.midnight first).seconds + 86400 * offset) ∧
          ∀ dayOfMonth day, Date.ofCivil? year month dayOfMonth = some day →
            histogram.axis[dayOfMonth - 1]? = some (Instant.midnight day).seconds) ∧
        (histogram.counts.length = 31 ∧
          ∀ index < 31, ∃ text,
            (histogram.counts.map countText)[index]? = some text ∧
              (text = "" ↔ now.date < ⟨first.day + (index : Nat)⟩) ∧
              (⟨first.day + (index : Nat)⟩ ≤ now.date → text = natText
                (events.countP fun event => event.date == ⟨first.day + (index : Nat)⟩))) ∧
        (histogram.counts.filterMap id).sum = (events.countP fun event =>
          decide ((first ≤ event.date ∧ event.date ≤ ⟨first.day + 30⟩) ∧
            event.date ≤ now.date)) ∧
        ∀ others, events.Perm others → request year month others now = .ok histogram := by
  obtain ⟨begins, ends⟩ := MonthWindow.of_request accepted
  refine ⟨window.first, ofWindow window events now, begins, request_eq_ok accepted events,
    ⟨(collect_eq_ofWindow accepted events).symm, ?_⟩, ⟨?_, ?_⟩, ⟨?_, ?_⟩, ?_, ?_⟩
  · rw [walk_window accepted, MonthWindow.length_days]
  · rw [ofWindow, MonthWindow.days, List.map_map]
    refine List.map_congr_left ?_
    intro offset _
    simp only [Function.comp_apply, Instant.midnight_seconds, secondsPerDay]
    omega
  · intro dayOfMonth day named
    obtain ⟨bounded, rfl⟩ := Date.day_eq_first_add begins named
    simp [ofWindow, MonthWindow.days, MonthWindow.length, bounded]
  · exact length_counts_ofWindow window events now
  · intro index bounded
    refine ⟨countText (countOn events now.date ⟨window.first.day + (index : Nat)⟩), ?_,
      countText_countOn events now.date _⟩
    simp [ofWindow, MonthWindow.days, MonthWindow.length, bounded]
  · rw [ofWindow, List.filterMap_map, Function.id_comp,
      sum_countOn events now.date window.nodup_days]
    simp only [MonthWindow.mem_days_iff ends, ends]
  · intro others sameEvents
    rw [request_eq_ok accepted, ofWindow, ofWindow, countOn_of_perm sameEvents]

/-- In the last month of the calendar the walk ends because there is no next day. -/
theorem sample_request_exact :
    let now : Instant := ⟨(daysBeforeYear (greatestYear + 1) - 2) * 86400, 0⟩
    let window : MonthWindow :=
      ⟨⟨daysBeforeYear (greatestYear + 1) - 31⟩, ⟨daysBeforeYear (greatestYear + 1) - 1⟩⟩
    let events : List Instant := [now, ⟨now.seconds - 1, 1500000000⟩, ⟨now.seconds + 86400, 0⟩]
    MonthWindow.request greatestYear 12 now = .ok window ∧
      window.last.addDays? 1 = none ∧
      ∃ histogram, request greatestYear 12 events now = .ok histogram ∧
        histogram.counts.map countText = List.replicate 28 "0" ++ ["1", "1", ""] ∧
        (histogram.counts.filterMap id).sum = 2 := by
  intro now window events
  have accepted : MonthWindow.request greatestYear 12 now = .ok window := by rfl
  obtain ⟨first, histogram, begins, collected, ⟨rfl, _⟩, _, _, sum, _⟩ :=
    request_exact accepted events
  obtain rfl : window.first = first := Option.some.inj begins
  exact ⟨accepted, by decide +kernel, _, collected, by decide +kernel,
    sum.trans (by decide +kernel)⟩

end MonthHistogram
end FleetDashboard
