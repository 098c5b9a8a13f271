import FleetDashboard.Proofs.Text.Digits
import Mathlib.Algebra.Ring.Int.Defs

/-!
# Numerals within bounds

A numeral that reads denotes a number within the bounds it has been read for, and every
numeral of such a number reads: digits with leading zeros or without, behind an optional
sign.
-/

namespace FleetDashboard
namespace Text

open Number

/-- The characters are digits that denote a number. -/
structure AreDigitsOf
    (digits : List Char)
    (value : Nat) : Prop where
  filled : digits ≠ []
  allDigits : ∀ character ∈ digits, isDigit character = true
  value_eq : digitsValue 0 digits = value

/-- A natural number in decimal: digits behind an optional plus sign. -/
inductive IsNatural : List Char → Nat → Prop
  | unsigned
      {digits : List Char}
      {value : Nat}
      (of : AreDigitsOf digits value) :
      IsNatural digits value
  | positive
      {digits : List Char}
      {value : Nat}
      (of : AreDigitsOf digits value) :
      IsNatural ('+' :: digits) value

/-- A whole number in decimal: digits behind an optional sign. -/
inductive IsWhole : List Char → Int → Prop
  | natural
      {characters : List Char}
      {value : Nat}
      (of : IsNatural characters value) :
      IsWhole characters value
  | negative
      {digits : List Char}
      {value : Nat}
      (of : AreDigitsOf digits value) :
      IsWhole ('-' :: digits) (-value)

theorem digit?_of_isDigit
    {character : Char}
    (digit : isDigit character = true) :
    digit? character = some (character.toNat - 48) := by
  rw [isDigit, digit?, Option.isSome_ite] at digit
  rw [digit?, if_pos digit]

theorem le_digitsValue
    (value : Nat)
    (digits : List Char) :
    value ≤ digitsValue value digits := by
  induction digits generalizing value with
  | nil => exact Nat.le_refl value
  | cons digit digits inductionHypothesis =>
      have later := inductionHypothesis (value * 10 + (digit.toNat - 48))
      have carried : digitsValue value (digit :: digits) =
        digitsValue (value * 10 + (digit.toNat - 48)) digits := rfl
      omega

theorem readDigits_eq_ok_iff
    {highest value result : Nat}
    {excess : NumeralFault}
    {characters : List Char}
    (within : value ≤ highest) :
    readDigits highest excess value characters = .ok result ↔
      (∀ character ∈ characters, isDigit character = true) ∧
        digitsValue value characters = result ∧ result ≤ highest := by
  induction characters generalizing value with
  | nil =>
      rw [readDigits_nil, Except.ok.injEq]
      constructor
      · rintro rfl
        exact ⟨nofun, rfl, within⟩
      · exact fun denotes => denotes.2.1
  | cons character rest inductionHypothesis =>
      rw [readDigits, List.forall_mem_cons]
      cases digit : isDigit character with
      | false =>
          rw [isDigit, Option.isSome_eq_false_iff, Option.isNone_iff_eq_none] at digit
          rw [digit]
          simp
      | true =>
          rw [digit?_of_isDigit digit]
          dsimp only
          have carried : digitsValue value (character :: rest) =
            digitsValue (value * 10 + (character.toNat - 48)) rest := rfl
          split
          · rename_i beyond
            have least := le_digitsValue (value * 10 + (character.toNat - 48)) rest
            simp only [reduceCtorEq, false_iff]
            rintro ⟨_, rfl, bounded⟩
            omega
          · rename_i notBeyond
            rw [inductionHypothesis (Nat.not_lt.mp notBeyond), carried]
            simp

theorem readMagnitude_eq_ok_iff
    {highest result : Nat}
    {excess : NumeralFault}
    {characters : List Char} :
    readMagnitude highest excess characters = .ok result ↔
      AreDigitsOf characters result ∧ result ≤ highest := by
  cases characters with
  | nil => exact ⟨nofun, fun denotes => absurd rfl denotes.1.filled⟩
  | cons character rest =>
      rw [readMagnitude, readDigits_eq_ok_iff (Nat.zero_le highest)]
      · constructor
        · rintro ⟨digits, value, bounded⟩
          exact ⟨⟨List.cons_ne_nil _ _, digits, value⟩, bounded⟩
        · rintro ⟨⟨_, digits, value⟩, bounded⟩
          exact ⟨digits, value, bounded⟩
      · nofun

theorem AreDigitsOf.head_isDigit
    {character : Char}
    {rest : List Char}
    {value : Nat}
    (of : AreDigitsOf (character :: rest) value) :
    isDigit character = true :=
  of.allDigits character List.mem_cons_self

/-- A natural number reads from exactly its numerals, if it is not too large. -/
theorem readNat_eq_ok_iff
    {highest value : Nat}
    {characters : List Char} :
    readNat highest characters = .ok value ↔
      IsNatural characters value ∧ value ≤ highest := by
  unfold readNat
  split
  · simp only [reduceCtorEq, false_iff, not_and]
    intro natural
    cases natural with
    | unsigned of => exact absurd rfl of.filled
  · rename_i digits
    rw [readMagnitude_eq_ok_iff]
    refine and_congr_left fun _ => ⟨.positive, fun natural => ?_⟩
    cases natural with
    | unsigned of => exact absurd of.head_isDigit (by decide)
    | positive of => exact of
  · rename_i unsigned
    rw [readMagnitude_eq_ok_iff]
    refine and_congr_left fun _ => ⟨.unsigned, fun natural => ?_⟩
    cases natural with
    | unsigned of => exact of
    | positive of => exact absurd rfl (unsigned _)

/-- A magnitude with a sign reads if the signed number is within the bounds that the limit
of the magnitude stands for. -/
theorem map_readMagnitude_eq_ok_iff
    {limit : Nat}
    {excess : NumeralFault}
    {digits : List Char}
    {sign : Nat → Int}
    {least beyond value : Int}
    (bounds : ∀ magnitude, magnitude ≤ limit ↔
      least ≤ sign magnitude ∧ sign magnitude < beyond) :
    (readMagnitude limit excess digits).map sign = .ok value ↔
      (∃ magnitude, AreDigitsOf digits magnitude ∧ sign magnitude = value) ∧
        least ≤ value ∧ value < beyond := by
  constructor
  · intro reads
    cases read : readMagnitude limit excess digits with
    | error fault =>
        rw [read] at reads
        cases reads
    | ok magnitude =>
        rw [read] at reads
        cases reads
        obtain ⟨of, bounded⟩ := readMagnitude_eq_ok_iff.mp read
        exact ⟨⟨magnitude, of, rfl⟩, (bounds magnitude).mp bounded⟩
  · rintro ⟨⟨magnitude, of, rfl⟩, inside⟩
    rw [readMagnitude_eq_ok_iff.mpr ⟨of, (bounds magnitude).mpr inside⟩]
    rfl

theorem isWhole_positive_iff
    {digits : List Char}
    {value : Int} :
    IsWhole ('+' :: digits) value ↔ ∃ magnitude, AreDigitsOf digits magnitude ∧
      (magnitude : Int) = value := by
  constructor
  · rintro (⟨⟨of⟩ | ⟨of⟩⟩ | _)
    · exact absurd of.head_isDigit (by decide)
    · exact ⟨_, of, rfl⟩
  · rintro ⟨magnitude, of, rfl⟩
    exact .natural (.positive of)

theorem isWhole_negative_iff
    {digits : List Char}
    {value : Int} :
    IsWhole ('-' :: digits) value ↔ ∃ magnitude, AreDigitsOf digits magnitude ∧
      -(magnitude : Int) = value := by
  constructor
  · rintro (⟨⟨of⟩⟩ | ⟨of⟩)
    · exact absurd of.head_isDigit (by decide)
    · exact ⟨_, of, rfl⟩
  · rintro ⟨magnitude, of, rfl⟩
    exact .negative of

theorem isWhole_unsigned_iff
    {characters : List Char}
    {value : Int}
    (notPositive : ∀ digits, characters ≠ '+' :: digits)
    (notNegative : ∀ digits, characters ≠ '-' :: digits) :
    IsWhole characters value ↔ ∃ magnitude, AreDigitsOf characters magnitude ∧
      (magnitude : Int) = value := by
  constructor
  · rintro (⟨⟨of⟩ | ⟨of⟩⟩ | ⟨of⟩)
    · exact ⟨_, of, rfl⟩
    · exact absurd rfl (notPositive _)
    · exact absurd rfl (notNegative _)
  · rintro ⟨magnitude, of, rfl⟩
    exact .natural (.unsigned of)

/-- A whole number reads from exactly its numerals, if it is one of the given number of
bits. -/
theorem readInt_eq_ok_iff
    {bits : Nat}
    {characters : List Char}
    {value : Int} :
    readInt bits characters = .ok value ↔
      IsWhole characters value ∧ -2 ^ (bits - 1) ≤ value ∧ value < 2 ^ (bits - 1) := by
  have positive : 0 < Nat.pow 2 (bits - 1) := Nat.two_pow_pos _
  have limit : ((Nat.pow 2 (bits - 1) : Nat) : Int) = 2 ^ (bits - 1) := Int.natCast_pow 2 (bits - 1)
  rw [← limit]
  unfold readInt
  split
  · simp only [reduceCtorEq, false_iff, not_and]
    rintro (⟨⟨of⟩⟩)
    exact absurd rfl of.filled
  · rw [isWhole_positive_iff]
    refine map_readMagnitude_eq_ok_iff fun magnitude => ?_
    rw [Int.ofNat_eq_natCast]
    omega
  · rw [isWhole_negative_iff]
    refine map_readMagnitude_eq_ok_iff fun magnitude => ?_
    rw [Int.ofNat_eq_natCast]
    omega
  · rename_i notPositive notNegative
    rw [isWhole_unsigned_iff (by simpa using notPositive) (by simpa using notNegative)]
    refine map_readMagnitude_eq_ok_iff fun magnitude => ?_
    rw [Int.ofNat_eq_natCast]
    omega

/-- A whole number that reads is one of the given number of bits. -/
theorem readInt_bounds
    {bits : Nat}
    {characters : List Char}
    {value : Int}
    (reads : readInt bits characters = .ok value) :
    -2 ^ (bits - 1) ≤ value ∧ value < 2 ^ (bits - 1) :=
  (readInt_eq_ok_iff.mp reads).2

/-! ## Numerals that are written -/

theorem areDigitsOf_natDigits
    (value : Nat) :
    AreDigitsOf (natDigits value) value :=
  ⟨natDigits_ne_nil value, fun _ => isDigit_of_mem_natDigits, digitsValue_natDigits value⟩

theorem isWhole_intText
    (value : Int) :
    IsWhole (intText value).toList value := by
  rw [intText]
  split
  · rename_i below
    rw [String.toList_ofList, isWhole_negative_iff]
    exact ⟨value.natAbs, areDigitsOf_natDigits _, by omega⟩
  · rename_i notBelow
    have whole : IsWhole (natText value.natAbs).toList (value.natAbs : Nat) := by
      rw [natText, String.toList_ofList]
      exact .natural (.unsigned (areDigitsOf_natDigits _))
    rwa [Int.natAbs_of_nonneg (Int.not_lt.mp notBelow)] at whole

/-- The text of a whole number of so many bits reads back as that number. -/
theorem readInt_intText
    {bits : Nat}
    {value : Int}
    (bounds : -2 ^ (bits - 1) ≤ value ∧ value < 2 ^ (bits - 1)) :
    readInt bits (intText value).toList = .ok value :=
  readInt_eq_ok_iff.mpr ⟨isWhole_intText value, bounds⟩

end Text
end FleetDashboard
