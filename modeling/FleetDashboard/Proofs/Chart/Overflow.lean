import FleetDashboard.Proofs.Chart.Alignment
import FleetDashboard.Proofs.Number.FixedText
import FleetDashboard.Proofs.Number.Hundredfold

/-!
# Cells beyond the range of numbers

A value that has been read is finite, and is shown as a decimal.  A percentage is a
hundred times as large, and is not looked at once more: where it lies beyond the range of
numbers, the cell shows the word for an infinite number.
-/

namespace FleetDashboard

open Metrics Number

/-- A value that has been read without complaint is finite. -/
theorem Metrics.isFinite_of_parseValue
    {raw : String}
    {value : Binary64}
    (parsed : parseValue raw = .ok value) :
    value.isFinite = true :=
  isFinite_of_readValue (Alignment.parseValue_eq_ok_iff.mp parsed)

namespace Alignment

section Cell

variable
  {value : Binary64}
  (isFinite : value.isFinite = true)

include isFinite

/-- A number is shown as a decimal exactly when its percentage stays within range, if that
is what is shown. -/
theorem isFixedDecimal_cellText_iff
    (percentage : Bool) :
    IsFixedDecimal 6 (cellText (if percentage then value.mul Binary64.hundred else value)) ↔
      (percentage = true → 100 * |value.toRat| < Binary64.overflowLimit) := by
  rw [cellText, Binary64.isFixedDecimal_fixedText_iff]
  cases percentage with
  | false => simp [isFinite]
  | true => simp [Binary64.isFinite_mul_hundred_iff isFinite]

/-- A percentage beyond the range is shown by a word. -/
theorem cellText_of_overflow
    (beyond : Binary64.overflowLimit ≤ 100 * |value.toRat|) :
    cellText (value.mul Binary64.hundred) = if value.toRat < 0 then "-inf" else "inf" := by
  rw [cellText, Binary64.mul_hundred_of_overflow isFinite beyond, Binary64.fixedText_infinite]
  simp only [decide_eq_true_eq]

end Cell

/-- What is shown is nothing, or a decimal, or the word for a percentage beyond the
range. -/
theorem Shows.decimal_or_word
    {percentage : Bool}
    {points : List Point}
    {moment : Int}
    {text : String}
    (shows : Shows percentage points moment text) :
    text = "" ∨ IsFixedDecimal 6 text ∨ percentage = true ∧ (text = "inf" ∨ text = "-inf") := by
  cases shows with
  | absent _ => exact .inl rfl
  | unreadable _ _ _ => exact .inl rfl
  | @number point value here first parsed =>
      have isFinite := isFinite_of_parseValue parsed
      refine .inr ?_
      by_cases inRange : percentage = true → 100 * |value.toRat| < Binary64.overflowLimit
      · exact .inl ((isFixedDecimal_cellText_iff isFinite percentage).mpr inRange)
      · obtain ⟨rfl, beyond⟩ := Classical.not_imp.mp inRange
        rw [if_pos rfl, cellText_of_overflow isFinite (not_lt.mp beyond)]
        refine .inr ⟨rfl, ?_⟩
        split_ifs
        · exact .inr rfl
        · exact .inl rfl

/-- What holds of every cell holds of what each series has at each second. -/
theorem forall_cells_iff
    {series : List Series}
    {percentage : Bool}
    {holds : String → Prop} :
    (∀ row ∈ (ofSeries series percentage).rows, ∀ text ∈ row, holds text) ↔
      ∀ entry ∈ series, ∀ moment ∈ (ofSeries series percentage).axis,
        holds (cell percentage entry moment) := by
  simp [ofSeries]

/-- Every cell of aligned series is empty or a decimal with six places, unless it shows a
percentage.  That holds of the percentages, too, exactly when every number that is shown
has a hundredfold within the range of numbers.  The hundredfold of any other number is
shown by the word for an infinite number, with its sign, and not as a gap. -/
theorem cells_decimal_iff_in_range
    (series : List Series)
    (percentage : Bool) :
    let aligned := ofSeries series percentage
    (∀ row ∈ aligned.rows, ∀ text ∈ row,
      text = "" ∨ IsFixedDecimal 6 text ∨
        percentage = true ∧ (text = "inf" ∨ text = "-inf")) ∧
    ((∀ row ∈ aligned.rows, ∀ text ∈ row, text = "" ∨ IsFixedDecimal 6 text) ↔
      (percentage = true → ∀ entry ∈ series, ∀ (point : Point) (value : Binary64),
        point.IsFirstIn entry.points → parseValue point.value = .ok value →
          100 * |value.toRat| < Binary64.overflowLimit)) ∧
    ∀ row entry, series[row]? = some entry → ∀ (point : Point) (value : Binary64),
      point.IsFirstIn entry.points → parseValue point.value = .ok value →
        ∃ column text, aligned.axis[column]? = some point.moment ∧
          aligned.cell? row column = some text ∧
          if percentage = true ∧ Binary64.overflowLimit ≤ 100 * |value.toRat| then
            text = if value.toRat < 0 then "-inf" else "inf"
          else IsFixedDecimal 6 text := by
  intro aligned
  refine ⟨?_, ?_, ?_⟩
  · rw [forall_cells_iff]
    intro entry _ moment _
    exact (shows_cell percentage entry moment).decimal_or_word
  · rw [forall_cells_iff]
    constructor
    · intro decimal scaled entry listed point value first parsed
      have onAxis : point.moment ∈ aligned.axis := by
        obtain ⟨before, after, split, _⟩ := first
        exact mem_axis_iff.mpr ⟨entry, listed, point, by simp [split], rfl⟩
      have shown := decimal entry listed point.moment onAxis
      rw [← shows_iff.mp (.number rfl first parsed)] at shown
      have isFinite := isFinite_of_parseValue parsed
      exact (isFixedDecimal_cellText_iff isFinite percentage).mp
        (shown.resolve_left (cellText_ne_empty _)) scaled
    · intro inRange entry listed moment _
      generalize shown : cell percentage entry moment = text
      cases shows_iff.mpr shown.symm with
      | absent _ => exact .inl rfl
      | unreadable _ _ _ => exact .inl rfl
      | number _ first parsed =>
          refine .inr ((isFixedDecimal_cellText_iff (isFinite_of_parseValue parsed) _).mpr ?_)
          exact fun scaled => inRange scaled entry listed _ _ first parsed
  · intro row entry listed point value first parsed
    have isFinite := isFinite_of_parseValue parsed
    have member : point ∈ entry.points := by
      obtain ⟨before, after, split, _⟩ := first
      simp [split]
    obtain ⟨column, onAxis⟩ := exists_column percentage listed member
    refine ⟨column, _, onAxis, cell?_ofSeries percentage listed onAxis, ?_⟩
    rw [← shows_iff.mp (.number rfl first parsed)]
    by_cases beyond : percentage = true ∧ Binary64.overflowLimit ≤ 100 * |value.toRat|
    · rw [if_pos beyond, if_pos beyond.1]
      exact cellText_of_overflow isFinite beyond.2
    · rw [if_neg beyond, isFixedDecimal_cellText_iff isFinite]
      exact fun scaled => not_le.mp fun large => beyond ⟨scaled, large⟩

/-- A percentage near the end of the range is a decimal, beside a gap for a text that is
no number. -/
theorem sample_cells_decimal :
    let value := Binary64.nearest false (10 ^ 306) 1
    let entry : Series := ⟨[], [⟨.ofNat 100, "1e306"⟩, ⟨.ofNat 160, "NaN"⟩]⟩
    let aligned := ofSeries [entry] true
    parseValue "1e306" = .ok value ∧ 100 * |value.toRat| < Binary64.overflowLimit ∧
      ∃ column text, aligned.axis[column]? = some 100 ∧ aligned.cell? 0 column = some text ∧
        IsFixedDecimal 6 text := by
  intro value entry aligned
  have parsed : parseValue "1e306" = .ok value := by decide +kernel
  have inRange : 100 * |value.toRat| < Binary64.overflowLimit :=
    (Binary64.isFinite_mul_hundred_iff (isFinite_of_parseValue parsed)).mp (by decide +kernel)
  have first : Point.IsFirstIn ⟨.ofNat 100, "1e306"⟩ entry.points :=
    ⟨[], [⟨.ofNat 160, "NaN"⟩], rfl, nofun⟩
  obtain ⟨_, _, shown⟩ := cells_decimal_iff_in_range [entry] true
  obtain ⟨column, text, onAxis, here, decimal⟩ := shown 0 entry rfl _ value first parsed
  rw [if_neg fun beyond => beyond.2.not_gt inRange] at decimal
  exact ⟨parsed, inRange, column, text, onAxis.trans (by decide +kernel), here, decimal⟩

/-- A text of a finite number whose percentage is beyond the range is shown as an infinite
number, where the plain number is a decimal. -/
theorem hundredfold_shown_as_infinite :
    let entry : Series := ⟨[], [⟨.ofNat 100, "1e307"⟩, ⟨.ofNat 160, "-1e307"⟩]⟩
    (∃ value, parseValue "1e307" = .ok value ∧ value.isFinite = true) ∧
      (ofSeries [entry] true).rows = [["inf", "-inf"]] ∧
      ¬IsFixedDecimal 6 "inf" ∧ ¬IsFixedDecimal 6 "-inf" := by
  intro entry
  refine ⟨⟨.nearest false (10 ^ 307) 1, by decide +kernel, by decide +kernel⟩,
    by decide +kernel, ?_, ?_⟩
  · exact mt (Binary64.isFixedDecimal_fixedText_iff 6 (.infinite false)).mp Bool.false_ne_true
  · exact mt (Binary64.isFixedDecimal_fixedText_iff 6 (.infinite true)).mp Bool.false_ne_true

end Alignment
end FleetDashboard
