import FleetDashboard.Number.Decimal
import FleetDashboard.Text.Blank
import Mathlib.Algebra.Group.Nat.Defs
import Mathlib.Data.List.TakeWhile

/-!
# Digits that are written and read

The digits of a natural number read back as that number, also behind leading zeros,
and a reader that takes digits while there are some takes exactly those that were
written.
-/

namespace FleetDashboard
namespace Text

open Number

theorem isDigit_eq
    (character : Char) :
    isDigit character = character.isDigit := by
  rw [Bool.eq_iff_iff, isDigit, digit?, Char.isDigit, Option.isSome_ite, Bool.and_eq_true,
    decide_eq_true_eq, decide_eq_true_eq]
  rfl

theorem isDigit_iff_toNat
    {character : Char} :
    isDigit character = true ↔ 48 ≤ character.toNat ∧ character.toNat ≤ 57 := by
  rw [isDigit_eq]
  exact Char.isDigit_iff_toNat

theorem isBlank_of_isDigit
    {character : Char}
    (digit : isDigit character = true) :
    isBlank character = false := by
  have bounds := isDigit_iff_toNat.mp digit
  simp only [isBlank, Bool.or_eq_false_iff, Bool.and_eq_false_iff, decide_eq_false_iff_not,
    beq_eq_false_iff_ne]
  omega

theorem ne_of_isDigit
    {character other : Char}
    (digit : isDigit character = true)
    (noDigit : isDigit other = false) :
    character ≠ other := by
  rintro rfl
  exact absurd digit (Bool.eq_false_iff.mp noDigit)

/-- A run of digits begins with a digit. -/
theorem exists_cons_of_digits
    {digits : List Char}
    (allDigits : ∀ character ∈ digits, isDigit character = true)
    (filled : digits ≠ []) :
    ∃ first rest, digits = first :: rest ∧ isDigit first = true := by
  obtain ⟨first, rest, rfl⟩ := List.exists_cons_of_ne_nil filled
  exact ⟨first, rest, rfl, allDigits first List.mem_cons_self⟩

theorem natDigits_ne_nil
    (value : Nat) :
    natDigits value ≠ [] := by
  simp [natDigits]

theorem isDigit_of_mem_natDigits
    {value : Nat}
    {character : Char}
    (member : character ∈ natDigits value) :
    isDigit character = true := by
  rw [isDigit_eq]
  exact Nat.isDigit_of_mem_toDigits (by decide) (by decide) member

/-- Reading digits on top of a value is the library's reading in base ten. -/
theorem digitsValue_eq
    (value : Nat)
    (digits : List Char) :
    digitsValue value digits = Nat.ofDigitChars 10 digits value := by
  simp only [digitsValue, Nat.ofDigitChars_eq_foldl, Nat.mul_comm]
  rfl

theorem digitsValue_natDigits
    (value : Nat) :
    digitsValue 0 (natDigits value) = value := by
  rw [digitsValue_eq]
  exact Nat.ofDigitChars_ten_toDigits

theorem digitsValue_lt
    {digits : List Char}
    (allDigits : ∀ character ∈ digits, isDigit character = true)
    (value : Nat) :
    digitsValue value digits < (value + 1) * 10 ^ digits.length := by
  induction digits generalizing value with
  | nil => simp [digitsValue]
  | cons digit digits inductionHypothesis =>
      have bounds := isDigit_iff_toNat.mp (allDigits digit List.mem_cons_self)
      have rest := inductionHypothesis (fun _ member => allDigits _ (List.mem_cons_of_mem _ member))
        (value * 10 + (digit.toNat - 48))
      have carried : value * 10 + (digit.toNat - 48) + 1 ≤ (value + 1) * 10 := by omega
      rw [List.length_cons, Nat.pow_succ', ← Nat.mul_assoc]
      exact Nat.lt_of_lt_of_le rest (Nat.mul_le_mul_right _ carried)

theorem natDigits_injective
    {left right : Nat}
    (same : natDigits left = natDigits right) :
    left = right := by
  rw [← digitsValue_natDigits left, same, digitsValue_natDigits]

/-- Texts of different whole numbers differ. -/
theorem intText_injective :
    Function.Injective intText := by
  intro left right same
  have characters := congrArg String.toList same
  have signless : ∀ value : Nat, '-' ∉ natDigits value := by
    intro value member
    exact ne_of_isDigit (isDigit_of_mem_natDigits member) (by decide) rfl
  by_cases leftNegative : left < 0 <;> by_cases rightNegative : right < 0
  all_goals
    simp only [intText, natText, leftNegative, rightNegative, if_true, if_false,
      String.toList_ofList] at characters
  · have magnitude := natDigits_injective (List.cons.inj characters).2
    omega
  · exact absurd (characters ▸ List.mem_cons_self) (signless _)
  · exact absurd (characters ▸ List.mem_cons_self) (signless _)
  · have magnitude := natDigits_injective characters
    omega

/-! ## Leading zeros -/

theorem isDigit_of_mem_paddedDigits
    {width value : Nat}
    {character : Char}
    (member : character ∈ paddedDigits width value) :
    isDigit character = true := by
  rcases List.mem_append.mp member with zero | digit
  · rw [List.eq_of_mem_replicate zero]
    decide
  · exact isDigit_of_mem_natDigits digit

theorem digitsValue_paddedDigits
    (width value : Nat) :
    digitsValue 0 (paddedDigits width value) = value := by
  rw [digitsValue_eq, paddedDigits, Nat.ofDigitChars_append, Nat.ofDigitChars_replicate_zero,
    Nat.mul_zero, ← digitsValue_eq, digitsValue_natDigits]

theorem length_paddedDigits
    {width value : Nat}
    (positive : 0 < width)
    (fits : value < 10 ^ width) :
    (paddedDigits width value).length = width := by
  have short : (natDigits value).length ≤ width :=
    (Nat.length_toDigits_le_iff (by decide) positive).mpr fits
  rw [paddedDigits, List.length_append, List.length_replicate]
  omega

theorem paddedDigits_ne_nil
    (width value : Nat) :
    paddedDigits width value ≠ [] := by
  simp [paddedDigits, natDigits_ne_nil]

theorem exists_cons_eq_paddedDigits
    (width value : Nat) :
    ∃ first rest, paddedDigits width value = first :: rest ∧ isDigit first = true :=
  exists_cons_of_digits (fun _ => isDigit_of_mem_paddedDigits) (paddedDigits_ne_nil width value)

/-! ## Where digits end -/

/-- The characters do not go on with a digit. -/
def EndsDigits
    (rest : List Char) : Prop :=
  ∀ character ∈ rest.head?, isDigit character = false

theorem endsDigits_nil : EndsDigits [] := nofun

theorem endsDigits_cons
    {character : Char}
    (noDigit : isDigit character = false)
    (rest : List Char) :
    EndsDigits (character :: rest) := by
  rintro _ ⟨⟩
  exact noDigit

theorem takeWhile_digits_append
    {digits rest : List Char}
    (allDigits : ∀ character ∈ digits, isDigit character = true)
    (ends : EndsDigits rest) :
    (digits ++ rest).takeWhile isDigit = digits := by
  rw [List.takeWhile_append_of_pos allDigits]
  cases rest with
  | nil => simp
  | cons character rest => simp [ends character rfl]

theorem dropWhile_digits_append
    {digits rest : List Char}
    (allDigits : ∀ character ∈ digits, isDigit character = true)
    (ends : EndsDigits rest) :
    (digits ++ rest).dropWhile isDigit = rest := by
  rw [List.dropWhile_append_of_pos allDigits]
  cases rest with
  | nil => rfl
  | cons character rest => simp [ends character rfl]

end Text
end FleetDashboard
