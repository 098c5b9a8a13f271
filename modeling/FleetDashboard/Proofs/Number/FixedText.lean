import FleetDashboard.Number.Fixed
import FleetDashboard.Proofs.Text.Digits

/-!
# Which numbers have a decimal text

A text with fixed decimal places is a decimal with exactly that many places when the
number is finite, and a word otherwise.
-/

namespace FleetDashboard
namespace Number

open Text

/-- The text is a decimal with this many places: an optional minus sign, digits, a point
and one digit for each place. -/
def IsFixedDecimal
    (places : Nat)
    (text : String) : Prop :=
  ∃ whole fraction, whole ≠ [] ∧ fraction.length = places ∧
    (∀ digit ∈ whole ++ fraction, isDigit digit = true) ∧
    (text.toList = whole ++ '.' :: fraction ∨ text.toList = '-' :: (whole ++ '.' :: fraction))

/-- A decimal has no characters but digits, the point and the minus sign. -/
theorem IsFixedDecimal.eq_of_mem
    {places : Nat}
    {text : String}
    (decimal : IsFixedDecimal places text)
    {character : Char}
    (member : character ∈ text.toList)
    (noDigit : isDigit character = false) :
    character = '.' ∨ character = '-' := by
  obtain ⟨whole, fraction, _, _, digits, characters⟩ := decimal
  have inDigits : character ∉ whole ++ fraction := by
    intro digit
    rw [digits character digit] at noDigit
    cases noDigit
  rw [List.mem_append, not_or] at inDigits
  rcases characters with same | same
  · rw [same, List.mem_append, List.mem_cons] at member
    exact .inl (by simpa [inDigits] using member)
  · rw [same, List.mem_cons, List.mem_append, List.mem_cons] at member
    simpa [inDigits, or_comm] using member

/-- The point stands in front of the last digits, and there is one before it. -/
theorem pointed_eq
    (places magnitude : Nat) :
    ∃ whole fraction, pointed places magnitude = whole ++ '.' :: fraction ∧ whole ≠ [] ∧
      fraction.length = places ∧ ∀ digit ∈ whole ++ fraction, isDigit digit = true := by
  have long : places + 1 ≤ (paddedDigits (places + 1) magnitude).length := by
    rw [paddedDigits, List.length_append, List.length_replicate]
    omega
  refine ⟨_, _, rfl, ?_, ?_, ?_⟩
  · rw [ne_eq, List.take_eq_nil_iff, not_or]
    exact ⟨by omega, paddedDigits_ne_nil _ _⟩
  · rw [List.length_drop]
    omega
  · intro digit member
    rw [List.take_append_drop] at member
    exact isDigit_of_mem_paddedDigits member

namespace Binary64

theorem isFixedDecimal_fixedText_finite
    (places significand : Nat)
    (negative : Bool)
    (exponent : Int) :
    IsFixedDecimal places (fixedText places (finite negative significand exponent)) := by
  obtain ⟨whole, fraction, split, filled, long, digits⟩ :=
    pointed_eq places (inPlaces places significand exponent)
  refine ⟨whole, fraction, filled, long, digits, ?_⟩
  rw [fixedText, String.toList_ofList, split]
  cases negative with
  | false => exact .inl rfl
  | true => exact .inr rfl

/-- A number is never shown as nothing. -/
theorem fixedText_ne_empty
    (places : Nat)
    (value : Binary64) :
    value.fixedText places ≠ "" := by
  intro empty
  have characters := congrArg String.toList empty
  cases value with
  | finite negative significand exponent =>
      simp only [fixedText, pointed, String.toList_ofList] at characters
      cases negative <;> simp at characters
  | infinite negative => cases negative <;> simp at characters
  | notNumber => simp [fixedText] at characters

/-- Exactly the finite numbers have a decimal text. -/
theorem isFixedDecimal_fixedText_iff
    (places : Nat)
    (value : Binary64) :
    IsFixedDecimal places (value.fixedText places) ↔ value.isFinite = true := by
  cases value with
  | finite negative significand exponent =>
      exact iff_of_true (isFixedDecimal_fixedText_finite ..) rfl
  | infinite negative =>
      refine iff_of_false ?_ Bool.false_ne_true
      intro decimal
      have letter : 'f' ∈ (fixedText places (infinite negative)).toList := by
        cases negative <;> simp
      simpa using decimal.eq_of_mem letter (by decide)
  | notNumber =>
      refine iff_of_false ?_ Bool.false_ne_true
      intro decimal
      have letter : 'a' ∈ (fixedText places notNumber).toList := by simp [fixedText]
      simpa using decimal.eq_of_mem letter (by decide)

/-- A tie goes to the even digit, and a zero keeps its sign. -/
example :
    fixedText 2 (nearest true 3 8) = "-0.38" ∧ fixedText 2 (nearest false 1 8) = "0.12" ∧
      fixedText 2 (zero true) = "-0.00" := by
  decide +kernel

end Binary64
end Number
end FleetDashboard
