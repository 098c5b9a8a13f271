import FleetDashboard.Chart.Alignment
import FleetDashboard.Proofs.Number.FixedText
import FleetDashboard.Proofs.Text.Digits
import Mathlib.Data.Finset.Insert

/-!
# What aligned series show

The common axis of series lists the second of every point, in the order in which the
seconds are first met, and nothing else.  A cell shows the first point of its series at
its second: the point's number if the point holds one, and nothing otherwise, even if a
later point at that second holds one.
-/

namespace FleetDashboard

open Metrics Number Text

/-! ## The axis -/

/-- An axis on which points are entered one by one: the seconds so far, as a set and in
order. -/
structure AxisDraft where
  seen : Finset Int
  axis : List Int

namespace AxisDraft

/-- No point has been entered. -/
def blank : AxisDraft := ⟨∅, []⟩

/-- Enter a point at a second.  A second that has been seen is not entered again. -/
def enter
    (draft : AxisDraft)
    (moment : Int) : AxisDraft :=
  if moment ∈ draft.seen then draft
  else ⟨insert moment draft.seen, draft.axis ++ [moment]⟩

/-- Enter all points, series after series. -/
def ofSeries
    (series : List Series) : AxisDraft :=
  series.foldl
    (fun draft entry => entry.points.foldl (fun draft point => draft.enter point.moment) draft)
    blank

/-- The set and the list hold the seconds met so far, the list in the order in which
they were first met. -/
structure Holds
    (draft : AxisDraft)
    (met : List Int) : Prop where
  seen_iff : ∀ moment, moment ∈ draft.seen ↔ moment ∈ met
  axis_iff : ∀ moment, moment ∈ draft.axis ↔ moment ∈ met
  inOrder : draft.axis.Pairwise fun earlier later => met.idxOf earlier < met.idxOf later

theorem Holds.blank : blank.Holds [] where
  seen_iff := by simp [AxisDraft.blank]
  axis_iff := by simp [AxisDraft.blank]
  inOrder := .nil

/-- A second met once more is already held; a new one comes last. -/
theorem Holds.enter
    {draft : AxisDraft}
    {met : List Int}
    (holds : draft.Holds met)
    (moment : Int) :
    (draft.enter moment).Holds (met ++ [moment]) := by
  have keepsOrder :
      draft.axis.Pairwise fun earlier later =>
        (met ++ [moment]).idxOf earlier < (met ++ [moment]).idxOf later := by
    refine holds.inOrder.imp_of_mem ?_
    intro earlier later earlierHeld laterHeld before
    rw [List.idxOf_append_of_mem ((holds.axis_iff earlier).mp earlierHeld),
      List.idxOf_append_of_mem ((holds.axis_iff later).mp laterHeld)]
    exact before
  rw [AxisDraft.enter]
  split
  · rename_i known
    have member : moment ∈ met := (holds.seen_iff moment).mp known
    refine ⟨?_, ?_, keepsOrder⟩
    · intro other
      rw [holds.seen_iff, List.mem_append, List.mem_singleton]
      exact ⟨.inl, fun held => held.elim id (· ▸ member)⟩
    · intro other
      rw [holds.axis_iff, List.mem_append, List.mem_singleton]
      exact ⟨.inl, fun held => held.elim id (· ▸ member)⟩
  · rename_i unknown
    have fresh : moment ∉ met := fun member => unknown ((holds.seen_iff moment).mpr member)
    refine ⟨?_, ?_, ?_⟩
    · intro other
      rw [Finset.mem_insert, holds.seen_iff, List.mem_append, List.mem_singleton, or_comm]
    · intro other
      rw [List.mem_append, holds.axis_iff, List.mem_append]
    · rw [List.pairwise_append]
      refine ⟨keepsOrder, List.pairwise_singleton _ _, ?_⟩
      intro earlier earlierHeld later laterHeld
      obtain rfl := List.mem_singleton.mp laterHeld
      have member := (holds.axis_iff earlier).mp earlierHeld
      rw [List.idxOf_append_of_mem member, List.idxOf_append_of_notMem fresh]
      exact Nat.lt_add_right _ (List.idxOf_lt_length_of_mem member)

/-- The second entered last stands on the axis if it had not been met before. -/
theorem Holds.axis_enter
    {draft : AxisDraft}
    {met : List Int}
    (holds : draft.Holds met)
    (moment : Int) :
    (draft.enter moment).axis =
      draft.axis ++ if moment ∈ met then [] else [moment] := by
  rw [AxisDraft.enter]
  by_cases known : moment ∈ met
  · rw [if_pos ((holds.seen_iff moment).mpr known), if_pos known, List.append_nil]
  · rw [if_neg (mt (holds.seen_iff moment).mp known), if_neg known]

theorem holds_foldl
    (met : List Int) :
    (met.foldl enter blank).Holds met := by
  induction met using List.reverseRecOn with
  | nil => exact .blank
  | append_singleton met moment inductionHypothesis =>
      rw [List.foldl_concat]
      exact inductionHypothesis.enter moment

theorem axis_foldl
    (met : List Int) :
    (met.foldl enter blank).axis = met.eraseDups := by
  induction met using List.reverseRecOn with
  | nil => rfl
  | append_singleton met moment inductionHypothesis =>
      rw [List.foldl_concat, (holds_foldl met).axis_enter, inductionHypothesis,
        List.eraseDups_append]
      by_cases known : moment ∈ met <;> simp [List.removeAll, List.eraseDups_cons, known]

/-- Entering the points of all series is entering their seconds one after the other. -/
theorem ofSeries_eq
    (series : List Series) :
    ofSeries series = (Alignment.moments series).foldl enter blank := by
  rw [Alignment.moments, List.foldl_flatMap]
  simp only [List.foldl_map]
  rfl

end AxisDraft

/-! ## Cells -/

/-- The point is the first of its list at its second. -/
def Metrics.Point.IsFirstIn
    (point : Point)
    (points : List Point) : Prop :=
  ∃ before after, points = before ++ point :: after ∧
    ∀ earlier ∈ before, earlier.moment ≠ point.moment

/-- What is shown of a series' points at a second. -/
inductive Alignment.Shows
    (percentage : Bool)
    (points : List Point)
    (moment : Int) : String → Prop where
  /-- There is no point at that second. -/
  | absent
      (none : ∀ point ∈ points, point.moment ≠ moment) :
      Shows percentage points moment ""
  /-- The first point at that second holds no number. -/
  | unreadable
      {point : Point}
      (here : point.moment = moment)
      (first : point.IsFirstIn points)
      (refused : parseValue point.value = .error (.parse point.value)) :
      Shows percentage points moment ""
  /-- The first point at that second holds a number. -/
  | number
      {point : Point}
      {value : Binary64}
      (here : point.moment = moment)
      (first : point.IsFirstIn points)
      (read : parseValue point.value = .ok value) :
      Shows percentage points moment
        (cellText (if percentage then value.mul Binary64.hundred else value))

namespace Alignment

theorem find?_moment_eq_some_iff
    {points : List Point}
    {moment : Int}
    {point : Point} :
    (points.find? fun point => point.moment == moment) = some point ↔
      point.moment = moment ∧ point.IsFirstIn points := by
  rw [List.find?_eq_some_iff_append, beq_iff_eq]
  refine and_congr_right ?_
  rintro rfl
  simp [Point.IsFirstIn]

theorem parseValue_eq_ok_iff
    {raw : String}
    {value : Binary64} :
    parseValue raw = .ok value ↔ readValue raw = some value := by
  rw [parseValue]
  cases readValue raw <;> simp

theorem parseValue_eq_error_iff
    {raw : String} :
    parseValue raw = .error (.parse raw) ↔ readValue raw = none := by
  rw [parseValue]
  cases readValue raw <;> simp

/-- A cell shows what the first point of its series at its second lets it show. -/
theorem shows_cell
    (percentage : Bool)
    (entry : Series)
    (moment : Int) :
    Shows percentage entry.points moment (cell percentage entry moment) := by
  rw [cell]
  cases found : entry.points.find? fun point => point.moment == moment with
  | none =>
      refine .absent ?_
      simpa using List.find?_eq_none.mp found
  | some point =>
      obtain ⟨here, first⟩ := find?_moment_eq_some_iff.mp found
      dsimp only [valueCell]
      cases read : readValue point.value with
      | none => exact .unreadable here first (parseValue_eq_error_iff.mpr read)
      | some value => exact .number here first (parseValue_eq_ok_iff.mpr read)

/-- Nothing but the first point at its second decides what a cell shows. -/
theorem shows_iff
    {percentage : Bool}
    {entry : Series}
    {moment : Int}
    {text : String} :
    Shows percentage entry.points moment text ↔ text = cell percentage entry moment := by
  constructor
  · intro shows
    cases shows with
    | absent none =>
        have nowhere : (entry.points.find? fun point => point.moment == moment) = .none := by
          simpa using none
        rw [cell, nowhere]
    | unreadable here first refused =>
        rw [cell, find?_moment_eq_some_iff.mpr ⟨here, first⟩]
        simp only [valueCell, parseValue_eq_error_iff.mp refused]
    | number here first read =>
        rw [cell, find?_moment_eq_some_iff.mpr ⟨here, first⟩]
        simp only [valueCell, parseValue_eq_ok_iff.mp read]
  · rintro rfl
    exact shows_cell percentage entry moment

/-- A number is never shown as nothing. -/
theorem cellText_ne_empty
    (value : Binary64) :
    cellText value ≠ "" :=
  Binary64.fixedText_ne_empty 6 value

/-- A cell is filled by the number of the first point at its second, and by nothing
else. -/
theorem cell_ne_empty_iff
    {percentage : Bool}
    {entry : Series}
    {moment : Int} :
    cell percentage entry moment ≠ "" ↔
      ∃ (point : Point) (value : Binary64), point.moment = moment ∧
        point.IsFirstIn entry.points ∧ parseValue point.value = .ok value := by
  constructor
  · intro filled
    generalize shown : cell percentage entry moment = text at filled
    cases shows_iff.mpr shown.symm with
    | absent => exact absurd rfl filled
    | unreadable => exact absurd rfl filled
    | number here first read => exact ⟨_, _, here, first, read⟩
  · rintro ⟨point, value, here, first, read⟩
    rw [← shows_iff.mp (.number here first read)]
    exact cellText_ne_empty _

/-! ## Rows and columns -/

/-- The cell of a row and a column, if there is one. -/
def cell?
    (aligned : Alignment)
    (row column : Nat) : Option String :=
  (aligned.rows[row]?).bind (·[column]?)

section Entry

variable
  {series : List Series}
  {entry : Series}
  {row column : Nat}

theorem cell?_ofSeries
    {moment : Int}
    (percentage : Bool)
    (listed : series[row]? = some entry)
    (onAxis : (ofSeries series percentage).axis[column]? = some moment) :
    (ofSeries series percentage).cell? row column = some (cell percentage entry moment) := by
  rw [axis_ofSeries] at onAxis
  simp [cell?, ofSeries, listed, onAxis]

theorem mem_axis_iff
    {percentage : Bool}
    {moment : Int} :
    moment ∈ (ofSeries series percentage).axis ↔
      ∃ entry ∈ series, ∃ point ∈ entry.points, point.moment = moment := by
  rw [axis_ofSeries, List.mem_eraseDups, moments, List.mem_flatMap]
  simp only [List.mem_map]

/-- The second of every point of a series has a column. -/
theorem exists_column
    {point : Point}
    (percentage : Bool)
    (listed : series[row]? = some entry)
    (member : point ∈ entry.points) :
    ∃ column : Nat, (ofSeries series percentage).axis[column]? = some point.moment := by
  refine List.mem_iff_getElem?.mp (mem_axis_iff.mpr ⟨entry, ?_, point, member, rfl⟩)
  exact List.mem_of_getElem? listed

end Entry

/-- The axis lists seconds in the order in which they are first met. -/
theorem pairwise_axis
    (series : List Series)
    (percentage : Bool) :
    (ofSeries series percentage).axis.Pairwise fun earlier later =>
      (moments series).idxOf earlier < (moments series).idxOf later := by
  rw [axis_ofSeries, ← AxisDraft.axis_foldl]
  exact (AxisDraft.holds_foldl (moments series)).inOrder

/-- No two columns read alike. -/
theorem nodup_axis_texts
    (series : List Series)
    (percentage : Bool) :
    ((ofSeries series percentage).axis.map intText).Nodup := by
  refine List.Nodup.map intText_injective ?_
  refine (pairwise_axis series percentage).imp ?_
  rintro earlier _ before rfl
  exact Nat.lt_irrefl _ before

/-- The axis of aligned series lists the seconds of all their points in the order in
which these are first met, each once and nothing else, as entering point after point
does; no two of them read alike.  There is a row for every series and a cell for every
second, which shows what the first point of the series at that second lets it show.
So every first point that holds a number is shown, and whatever is shown is the number
of such a point. -/
theorem ofSeries_exact
    (series : List Series)
    (percentage : Bool) :
    let aligned := ofSeries series percentage
    (aligned.axis = (AxisDraft.ofSeries series).axis ∧
      (∀ moment, moment ∈ aligned.axis ↔
        ∃ entry ∈ series, ∃ point ∈ entry.points, point.moment = moment) ∧
      (aligned.axis.Pairwise fun earlier later =>
        (moments series).idxOf earlier < (moments series).idxOf later) ∧
      (aligned.axis.map intText).Nodup) ∧
    (aligned.rows.length = series.length ∧
      ∀ row ∈ aligned.rows, row.length = aligned.axis.length) ∧
    ∀ row entry, series[row]? = some entry →
      (∀ column moment, aligned.axis[column]? = some moment →
        ∃ text, aligned.cell? row column = some text ∧
          (∀ other, Shows percentage entry.points moment other ↔ other = text) ∧
          (text ≠ "" ↔ ∃ (point : Point) (value : Binary64), point.moment = moment ∧
            point.IsFirstIn entry.points ∧ parseValue point.value = .ok value)) ∧
      ∀ (point : Point) (value : Binary64), point.IsFirstIn entry.points →
        parseValue point.value = .ok value →
          ∃ column, aligned.axis[column]? = some point.moment ∧
            aligned.cell? row column =
              some (cellText (if percentage then value.mul Binary64.hundred else value)) := by
  intro aligned
  refine ⟨⟨?_, fun _ => mem_axis_iff, pairwise_axis series percentage,
    nodup_axis_texts series percentage⟩, ⟨length_rows_ofSeries series percentage, ?_⟩, ?_⟩
  · rw [AxisDraft.ofSeries_eq, AxisDraft.axis_foldl]
    rfl
  · intro row member
    exact length_of_mem_rows member
  intro row entry listed
  constructor
  · intro column moment onAxis
    exact ⟨_, cell?_ofSeries percentage listed onAxis, fun _ => shows_iff, cell_ne_empty_iff⟩
  · intro point value first read
    have member : point ∈ entry.points := by
      obtain ⟨before, after, split, _⟩ := first
      simp [split]
    obtain ⟨column, onAxis⟩ := exists_column percentage listed member
    refine ⟨column, onAxis, ?_⟩
    rw [cell?_ofSeries percentage listed onAxis, ← shows_iff.mp (.number rfl first read)]

/-- Two points fall on one second, at which the first holds no number and hides the
second; a point at no time at all falls on second zero. -/
theorem sample_ofSeries_exact :
    let hidden : Series :=
      ⟨[], [⟨.nearest false 3002 10, "oops"⟩, ⟨.nearest false 2996 10, "2"⟩,
        ⟨.notNumber, " 0.125 "⟩]⟩
    let other : Series := ⟨[], [⟨.nearest true 1 2, "1e308"⟩, ⟨.ofNat 300, "-3"⟩]⟩
    let aligned := ofSeries [hidden, other] true
    aligned.axis = [300, 0, -1] ∧
      aligned.rows = [["", "12.500000", ""], ["-300.000000", "", "inf"]] ∧
      (∀ text, Shows true hidden.points 300 text ↔ text = "") ∧
      ∃ column : Nat, aligned.axis[column]? = some (-1) ∧ aligned.cell? 1 column = some "inf" := by
  intro hidden other aligned
  obtain ⟨_, _, exact⟩ := ofSeries_exact [hidden, other] true
  have axis : aligned.axis = [300, 0, -1] := by decide +kernel
  refine ⟨axis, by decide +kernel, ?_, ?_⟩
  · obtain ⟨text, shown, only, _⟩ := (exact 0 hidden rfl).1 0 300 (by decide +kernel)
    have nothing : aligned.cell? 0 0 = some "" := by decide +kernel
    obtain rfl := Option.some.inj (nothing.symm.trans shown)
    exact only
  · have first : Point.IsFirstIn ⟨.nearest true 1 2, "1e308"⟩ other.points :=
      ⟨[], [⟨.ofNat 300, "-3"⟩], rfl, nofun⟩
    obtain ⟨column, onAxis, shown⟩ := (exact 1 other rfl).2 _ (.nearest false (10 ^ 308) 1) first
      (by decide +kernel)
    refine ⟨column, onAxis.trans (by decide +kernel), shown.trans (by decide +kernel)⟩

end Alignment
end FleetDashboard
