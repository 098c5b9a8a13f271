import FleetDashboard.Proofs.Chart.Alignment
import FleetDashboard.Proofs.Failure
import FleetDashboard.Proofs.Number.Nearest
import FleetDashboard.Proofs.Stack.FirstMatch
import FleetDashboard.Proofs.Stack.Totals
import FleetDashboard.Proofs.Text.Numeral
import FleetDashboard.Proofs.Text.Trim

/-!
# Whole numbers are values

A text that denotes a whole number also denotes a value, and this is the number of the
binary64 format nearest to it.  So what counts for the totals of an organization is never a
gap in a chart or on a stack card.
-/

namespace FleetDashboard

open Metrics Number Text

namespace Number

/-! ## Digits as a decimal -/

section Digits

variable
  {digits : List Char}
  {magnitude : Nat}
  (of : AreDigitsOf digits magnitude)

include of

/-- Digits are no word that begins with another character. -/
theorem isWord_of_areDigitsOf
    (word : String)
    {initial : Char}
    {letters : List Char}
    (spelled : word.toList = initial :: letters)
    (noDigit : isDigit initial = false) :
    isWord word digits = false := by
  obtain ⟨first, rest, rfl, digit⟩ := exists_cons_of_digits of.allDigits of.filled
  have kept : first.toLower = first := by
    have bounds := isDigit_iff_toNat.mp digit
    refine dif_neg fun upper => ?_
    have below : first.val.toNat < (65 : UInt32).toNat := lt_of_le_of_lt bounds.2 (by decide)
    exact absurd (UInt32.le_iff_toNat_le.mp upper.1) (not_le_of_gt below)
  rw [isWord, spelled, List.map_cons, kept, beq_eq_false_iff_ne]
  intro same
  exact ne_of_isDigit digit noDigit (List.cons.inj same).1

theorem splitSign_of_areDigitsOf :
    splitSign digits = (false, digits) := by
  obtain ⟨first, rest, rfl, digit⟩ := exists_cons_of_digits of.allDigits of.filled
  unfold splitSign
  split
  · rename_i same
    exact absurd (List.cons.inj same).1 (ne_of_isDigit digit (by decide))
  · rename_i same
    exact absurd (List.cons.inj same).1 (ne_of_isDigit digit (by decide))
  · rfl

/-- Digits are a decimal without a fraction and without a power of ten. -/
theorem readDecimal_of_areDigitsOf
    (negative : Bool) :
    readDecimal negative digits = some ⟨negative, magnitude, 0⟩ := by
  have taken := takeWhile_digits_append of.allDigits endsDigits_nil
  have dropped := dropWhile_digits_append of.allDigits endsDigits_nil
  rw [List.append_nil] at taken dropped
  have filled : digits.isEmpty = false := List.isEmpty_eq_false_iff.mpr of.filled
  simp only [readDecimal, taken, dropped, filled, Bool.false_and, Bool.false_eq_true, if_false,
    readExponent, Option.map_some, List.length_nil, Nat.cast_zero, sub_zero, of.value_eq]
  rfl

end Digits

/-- A decimal without a power of ten denotes the number nearest to its significand. -/
theorem Decimal.toBinary64_whole
    (negative : Bool)
    (magnitude : Nat) :
    (Decimal.mk negative magnitude 0).toBinary64 = .nearest negative magnitude 1 := by
  have notFar : ¬Decimal.farExponent < 0 := by decide
  have notTiny : ¬(0 : Int) < -(Decimal.farExponent + magnitude.log2 + 1) := by
    rw [Decimal.farExponent]
    omega
  rw [Decimal.toBinary64]
  by_cases none : magnitude = 0
  · rw [if_pos none, none, Binary64.nearest_zero]
  · rw [if_neg none, if_neg notFar, if_neg notTiny]
    simp

namespace Binary64

/-- Digits behind the sign that has been split off denote the number nearest to them. -/
theorem read?_of_splitSign
    {characters digits : List Char}
    {negative : Bool}
    {magnitude : Nat}
    (split : splitSign characters = (negative, digits))
    (of : AreDigitsOf digits magnitude) :
    read? characters = some (nearest negative magnitude 1) := by
  have noInf := isWord_of_areDigitsOf of "inf" rfl (by decide)
  have noInfinity := isWord_of_areDigitsOf of "infinity" rfl (by decide)
  have noNan := isWord_of_areDigitsOf of "nan" rfl (by decide)
  rw [read?, split]
  simp only [noInf, noInfinity, noNan, Bool.or_self, Bool.false_eq_true, if_false,
    readDecimal_of_areDigitsOf of, Option.map_some, Decimal.toBinary64_whole]

/-- A numeral denotes the number nearest to its whole number; only the sign of zero is that
of the text. -/
theorem read?_of_isWhole
    {characters : List Char}
    {whole : Int}
    (isWhole : IsWhole characters whole) :
    ∃ negative, read? characters = some (nearest negative whole.natAbs 1) ∧
      (whole ≠ 0 → (negative = true ↔ whole < 0)) := by
  cases isWhole with
  | natural isNatural =>
      rename_i magnitude
      have notNegative : ¬(magnitude : Int) < 0 := by omega
      refine ⟨false, ?_, by simp [notNegative]⟩
      rw [Int.natAbs_natCast]
      cases isNatural with
      | unsigned of => exact read?_of_splitSign (splitSign_of_areDigitsOf of) of
      | positive of => exact read?_of_splitSign rfl of
  | negative of =>
      refine ⟨true, ?_, fun filled => iff_of_true rfl (by omega)⟩
      rw [Int.natAbs_neg, Int.natAbs_natCast]
      exact read?_of_splitSign rfl of

/-- The number nearest to a whole number of sixty-four bits is finite. -/
theorem isNearest_of_whole
    {whole : Int}
    {negative : Bool}
    (bounds : -2 ^ 63 ≤ whole ∧ whole < 2 ^ 63)
    (sign : whole ≠ 0 → (negative = true ↔ whole < 0)) :
    (nearest negative whole.natAbs 1).isFinite = true ∧
      IsNearest whole (nearest negative whole.natAbs 1) := by
  have size : |(whole : ℚ)| = (whole.natAbs : ℚ) / (1 : Nat) := by
    rw [Nat.cast_one, div_one, Nat.cast_natAbs, Int.cast_abs]
  have rounds : Rounds whole (nearest negative whole.natAbs 1) := by
    refine rounds_nearest one_pos size fun filled => ?_
    rw [sign (by exact_mod_cast filled), Int.cast_lt_zero]
  have small : |(whole : ℚ)| ≤ 2 ^ 63 := by
    rw [abs_le]
    exact ⟨by exact_mod_cast bounds.1, by exact_mod_cast bounds.2.le⟩
  have isFinite : (nearest negative whole.natAbs 1).isFinite = true := by
    rw [rounds.isFinite_iff]
    calc |(whole : ℚ)| ≤ 2 ^ 63 := small
      _ < (2 ^ 54 - 1) * 2 ^ 10 := by norm_num
      _ ≤ (2 ^ 54 - 1) * 2 ^ 970 := by
          refine mul_le_mul_of_nonneg_left (pow_le_pow_right₀ one_le_two (by norm_num)) ?_
          norm_num
  exact ⟨isFinite, rounds.isNearest isFinite⟩

end Binary64
end Number

namespace Metrics

/-! ## The two readings of a text -/

theorem parseWholeNumber_eq_ok_iff
    {raw : String}
    {whole : Int} :
    parseWholeNumber raw = .ok whole ↔ readWholeNumber raw = some whole := by
  rw [parseWholeNumber]
  cases readWholeNumber raw <;> simp

/-- Whole numbers of sixty-four bits read from exactly their numerals, between blanks. -/
theorem readWholeNumber_eq_some_iff
    {raw : String}
    {whole : Int} :
    readWholeNumber raw = some whole ↔
      IsWhole (trimBoth raw.toList) whole ∧ -2 ^ 63 ≤ whole ∧ whole < 2 ^ 63 := by
  rw [readWholeNumber, toOption_eq_some_iff, readInt_eq_ok_iff]

/-- A text that denotes a whole number denotes the value nearest to that. -/
theorem exists_isNearest_of_readWholeNumber
    {raw : String}
    {whole : Int}
    (read : readWholeNumber raw = some whole) :
    ∃ value, readValue raw = some value ∧ Binary64.IsNearest whole value := by
  obtain ⟨isWhole, bounds⟩ := readWholeNumber_eq_some_iff.mp read
  obtain ⟨negative, found, sign⟩ := Binary64.read?_of_isWhole isWhole
  obtain ⟨isFinite, isNearest⟩ := Binary64.isNearest_of_whole bounds sign
  refine ⟨_, ?_, isNearest⟩
  rw [readValue, found, Option.filter_some, if_pos isFinite]

/-! ## Blanks and leading zeros -/

/-- Blanks around a text do not change what is read from it, and a text that cannot be read
is reported as it was received. -/
structure ReadsBetweenBlanks
    (parse : String → Except DashboardError α)
    (raw : String) : Prop where
  unchanged : ∀ front back, isBlankText front = true → isBlankText back = true →
    (parse (front ++ raw ++ back)).toOption = (parse raw).toOption
  reports : ∀ fault, parse raw = .error fault → fault = .parse raw

/-- A parser that reads what stands between the blanks, and reports the text otherwise. -/
theorem ReadsBetweenBlanks.of_read
    {parse : String → Except DashboardError α}
    (read : List Char → Option α)
    (parse_eq : ∀ raw, parse raw = (read (trimBoth raw.toList)).elim (.error (.parse raw)) .ok)
    (raw : String) :
    ReadsBetweenBlanks parse raw where
  unchanged := by
    intro front back blankFront blankBack
    rw [isBlankText, List.all_eq_true] at blankFront blankBack
    have same : trimBoth (front ++ raw ++ back).toList = trimBoth raw.toList := by
      rw [String.toList_append, String.toList_append, trimBoth_pad blankFront blankBack]
    rw [parse_eq, parse_eq, same]
    cases read (trimBoth raw.toList) <;> rfl
  reports := by
    intro fault failed
    rw [parse_eq] at failed
    cases found : read (trimBoth raw.toList) with
    | none =>
        rw [found] at failed
        exact (Except.error.inj failed).symm
    | some value =>
        rw [found] at failed
        cases failed

theorem readsBetweenBlanks_parseValue
    (raw : String) :
    ReadsBetweenBlanks parseValue raw := by
  refine .of_read (fun core => (Binary64.read? core).filter Binary64.isFinite) ?_ raw
  intro raw
  rw [parseValue, readValue]
  cases (Binary64.read? (trimBoth raw.toList)).filter Binary64.isFinite <;> rfl

theorem readsBetweenBlanks_parseWholeNumber
    (raw : String) :
    ReadsBetweenBlanks parseWholeNumber raw := by
  refine .of_read (fun core => (readInt 64 core).toOption) ?_ raw
  intro raw
  rw [parseWholeNumber, readWholeNumber]
  cases (readInt 64 (trimBoth raw.toList)).toOption <;> rfl

/-- What may stand in front of the digits of a whole number. -/
def IsSign
    (sign : List Char) : Prop :=
  sign = [] ∨ sign = ['+'] ∨ sign = ['-']

theorem areDigitsOf_zeros_iff
    {digits : List Char}
    (filled : digits ≠ [])
    (zeros magnitude : Nat) :
    AreDigitsOf (List.replicate zeros '0' ++ digits) magnitude ↔ AreDigitsOf digits magnitude := by
  have sameValue : digitsValue 0 (List.replicate zeros '0' ++ digits) = digitsValue 0 digits := by
    rw [digitsValue_eq, digitsValue_eq, Nat.ofDigitChars_append, Nat.ofDigitChars_replicate_zero,
      Nat.mul_zero]
  have zeroDigits : ∀ character ∈ List.replicate zeros '0', isDigit character = true := by
    intro character member
    rw [List.eq_of_mem_replicate member]
    decide
  constructor
  · rintro ⟨_, allDigits, value⟩
    exact ⟨filled, fun character member => allDigits character (List.mem_append_right _ member),
      sameValue.symm.trans value⟩
  · rintro ⟨_, allDigits, value⟩
    refine ⟨by simp [filled], ?_, sameValue.trans value⟩
    intro character member
    exact (List.mem_append.mp member).elim (zeroDigits character) (allDigits character)

/-- Zeros in front of the digits do not change the whole number. -/
theorem isWhole_zeros_iff
    {sign digits : List Char}
    (isSign : IsSign sign)
    (filled : digits ≠ [])
    (allDigits : ∀ character ∈ digits, isDigit character = true)
    (zeros : Nat)
    (whole : Int) :
    IsWhole (sign ++ (List.replicate zeros '0' ++ digits)) whole ↔
      IsWhole (sign ++ digits) whole := by
  have unsigned
      {characters : List Char}
      (onlyDigits : ∀ character ∈ characters, isDigit character = true)
      {mark : Char}
      (noDigit : isDigit mark = false) :
      ∀ rest, characters ≠ mark :: rest := by
    rintro rest rfl
    exact ne_of_isDigit (onlyDigits mark List.mem_cons_self) noDigit rfl
  have zerosToo : ∀ character ∈ List.replicate zeros '0' ++ digits, isDigit character = true :=
    ((areDigitsOf_zeros_iff filled zeros _).mpr ⟨filled, allDigits, rfl⟩).allDigits
  rcases isSign with rfl | rfl | rfl
  · rw [List.nil_append, List.nil_append,
      isWhole_unsigned_iff (unsigned zerosToo (by decide)) (unsigned zerosToo (by decide)),
      isWhole_unsigned_iff (unsigned allDigits (by decide)) (unsigned allDigits (by decide))]
    simp only [areDigitsOf_zeros_iff filled]
  · simp only [List.singleton_append, isWhole_positive_iff, areDigitsOf_zeros_iff filled]
  · simp only [List.singleton_append, isWhole_negative_iff, areDigitsOf_zeros_iff filled]

theorem isBlank_of_isSign
    {sign : List Char}
    (isSign : IsSign sign) :
    ∀ character ∈ sign, isBlank character = false := by
  rcases isSign with rfl | rfl | rfl
  · nofun
  · simp; decide
  · simp; decide

/-- A sign and digits stand between no blanks. -/
theorem trimBoth_of_sign_digits
    {sign digits : List Char}
    (isSign : IsSign sign)
    (allDigits : ∀ character ∈ digits, isDigit character = true) :
    trimBoth (sign ++ digits) = sign ++ digits := by
  have noBlank : ∀ character ∈ sign ++ digits, isBlank character = false := by
    intro character member
    rcases List.mem_append.mp member with inSign | inDigits
    · exact isBlank_of_isSign isSign character inSign
    · exact isBlank_of_isDigit (allDigits character inDigits)
  refine trimBoth_of_isBetweenBlanks ⟨⟨[], [], by simp, nofun, nofun⟩, ?_, ?_⟩
  · exact fun first found => noBlank first (List.mem_of_head? found)
  · exact fun last found => noBlank last (List.mem_of_getLast? found)

/-- Zeros in front of the digits do not change what is read. -/
theorem parseWholeNumber_zeros_iff
    {sign digits : List Char}
    (isSign : IsSign sign)
    (filled : digits ≠ [])
    (allDigits : ∀ character ∈ digits, isDigit character = true)
    (zeros : Nat)
    (whole : Int) :
    parseWholeNumber (String.ofList (sign ++ (List.replicate zeros '0' ++ digits))) = .ok whole ↔
      parseWholeNumber (String.ofList (sign ++ digits)) = .ok whole := by
  have zerosToo : ∀ character ∈ List.replicate zeros '0' ++ digits, isDigit character = true :=
    ((areDigitsOf_zeros_iff filled zeros _).mpr ⟨filled, allDigits, rfl⟩).allDigits
  rw [parseWholeNumber_eq_ok_iff, parseWholeNumber_eq_ok_iff, readWholeNumber_eq_some_iff,
    readWholeNumber_eq_some_iff, String.toList_ofList, String.toList_ofList,
    trimBoth_of_sign_digits isSign zerosToo, trimBoth_of_sign_digits isSign allDigits,
    isWhole_zeros_iff isSign filled allDigits]

/-! ## Gaps -/

/-- Wherever charts and stack cards show the text, they show something. -/
structure IsAlwaysShown
    (raw : String) : Prop where
  cell : ∀ (percentage : Bool) (entry : Series) (point : Point),
    point.IsFirstIn entry.points → point.value = raw →
      Alignment.cell percentage entry point.moment ≠ ""
  cpu : ∀ cluster memoryDisk cpu sample,
    StackUtilization.IsFirst cluster none cpu sample → sample.value = raw →
      (StackUtilization.ofSamples cluster memoryDisk cpu).cpu ≠ ""
  memory : ∀ cluster memoryDisk cpu sample,
    StackUtilization.IsFirst cluster (some StackUtilization.memoryTotal) memoryDisk sample →
      sample.value = raw → (StackUtilization.ofSamples cluster memoryDisk cpu).memory ≠ ""
  disk : ∀ cluster memoryDisk cpu sample,
    StackUtilization.IsFirst cluster (some StackUtilization.diskCapacity) memoryDisk sample →
      sample.value = raw → (StackUtilization.ofSamples cluster memoryDisk cpu).disk ≠ ""
  /-- A part of a share is not taken for an unknown one either. -/
  measured : ∀ cluster metric samples sample,
    StackUtilization.IsFirst cluster metric samples sample → sample.value = raw →
      ¬StackUtilization.Unmeasured cluster metric samples

/-- The number nearest to a positive whole number is positive. -/
theorem one_le_of_isNearest
    {whole : Int}
    {value : Binary64}
    (isNearest : Binary64.IsNearest whole value)
    (positive : 0 < whole) :
    1 ≤ value.toRat := by
  have small : (1 : Int).natAbs ≤ 2 ^ 53 := by norm_num
  obtain ⟨one, isRepresentable, same⟩ := Binary64.exists_isRepresentable_eq small
  have near := isNearest.nearest one isRepresentable
  have least : (1 : ℚ) ≤ whole := by exact_mod_cast positive
  rw [same, Int.cast_one, abs_of_nonneg (sub_nonneg.mpr least)] at near
  linarith [le_abs_self ((whole : ℚ) - value.toRat)]

/-- What counts for a total is never a gap. -/
theorem isAlwaysShown_of_contributes
    {sample : Sample}
    (contributes : Capacity.Contributes sample) :
    IsAlwaysShown sample.value := by
  obtain ⟨whole, read, positive⟩ := contributes
  obtain ⟨value, found, isNearest⟩ := exists_isNearest_of_readWholeNumber read
  have above : 0 < value.toRat := lt_of_lt_of_le one_pos (one_le_of_isNearest isNearest positive)
  constructor
  · intro percentage entry point first same
    rw [← same] at found
    exact Alignment.cell_ne_empty_iff.mpr
      ⟨point, value, rfl, first, Alignment.parseValue_eq_ok_iff.mpr found⟩
  · intro cluster memoryDisk cpu shown first same
    rw [← same] at found
    exact StackUtilization.loadText_ne_empty_iff.mpr ⟨shown, value, first, found⟩
  · intro cluster memoryDisk cpu shown first same
    rw [← same] at found
    exact (StackUtilization.shareOf_ne_empty_iff ..).mpr ⟨shown, value, first, found, above⟩
  · intro cluster memoryDisk cpu shown first same
    rw [← same] at found
    exact (StackUtilization.shareOf_ne_empty_iff ..).mpr ⟨shown, value, first, found, above⟩
  · intro cluster metric samples shown first same unmeasured
    have missing := unmeasured shown first
    rw [same, found] at missing
    cases missing

/-- A text that denotes a whole number denotes the value nearest to it, which is the whole
number itself up to `2 ^ 53`; so a text that counts for a total is never a gap.  Blanks around
a text change neither reading, and each reports a text that it refuses as it was received.
Whole numbers are read from exactly the digits behind an optional sign that stand between the
blanks and denote a number of sixty-four bits, with any number of zeros in front. -/
theorem whole_numbers_are_values
    (raw : String) :
    (∀ whole, parseWholeNumber raw = .ok whole →
      ∃ value, parseValue raw = .ok value ∧ Binary64.IsNearest whole value ∧
        (whole.natAbs ≤ 2 ^ 53 → value.toRat = whole)) ∧
    (∀ sample : Sample, sample.value = raw → Capacity.Contributes sample → IsAlwaysShown raw) ∧
    (ReadsBetweenBlanks parseValue raw ∧ ReadsBetweenBlanks parseWholeNumber raw) ∧
    (∀ whole, parseWholeNumber raw = .ok whole ↔
      ∃ core, IsBetweenBlanks raw.toList core ∧ IsWhole core whole ∧
        -2 ^ 63 ≤ whole ∧ whole ≤ 2 ^ 63 - 1) ∧
    ∀ sign zeros digits, raw = String.ofList (sign ++ (List.replicate zeros '0' ++ digits)) →
      IsSign sign → digits ≠ [] → (∀ character ∈ digits, isDigit character = true) →
        ∀ whole, parseWholeNumber raw = .ok whole ↔
          parseWholeNumber (String.ofList (sign ++ digits)) = .ok whole := by
  refine ⟨?_, ?_, ⟨readsBetweenBlanks_parseValue raw, readsBetweenBlanks_parseWholeNumber raw⟩,
    ?_, ?_⟩
  · intro whole read
    obtain ⟨value, found, isNearest⟩ :=
      exists_isNearest_of_readWholeNumber (parseWholeNumber_eq_ok_iff.mp read)
    refine ⟨value, Alignment.parseValue_eq_ok_iff.mpr found, isNearest, fun small => ?_⟩
    obtain ⟨same, isRepresentable, toRat_eq⟩ := Binary64.exists_isRepresentable_eq small
    rw [← toRat_eq] at isNearest ⊢
    exact isNearest.toRat_eq isRepresentable
  · rintro sample rfl contributes
    exact isAlwaysShown_of_contributes contributes
  · intro whole
    rw [parseWholeNumber_eq_ok_iff, readWholeNumber_eq_some_iff]
    simp only [isBetweenBlanks_iff, exists_eq_left', Int.le_sub_one_iff]
  · rintro sign zeros digits rfl isSign filled allDigits whole
    exact parseWholeNumber_zeros_iff isSign filled allDigits zeros whole

/-- The greatest whole number up to which values are exact, with zeros in front.  The next
whole number is a tie, which goes to the even neighbour. -/
theorem sample_whole_numbers_are_values :
    let raw := "+009007199254740992"
    let digits := "9007199254740992".toList
    (parseWholeNumber raw = .ok 9007199254740992 ∧ Int.natAbs 9007199254740992 ≤ 2 ^ 53 ∧
      ∃ value, parseValue raw = .ok value ∧ value.toRat = 9007199254740992) ∧
    (Capacity.Contributes ⟨[], ⟨.zero false, raw⟩⟩ ∧ IsAlwaysShown raw) ∧
    (isBlankText " \t" = true ∧ isBlankText "\n" = true ∧
      (parseWholeNumber (" \t" ++ raw ++ "\n")).toOption = some 9007199254740992) ∧
    (raw = String.ofList (['+'] ++ (List.replicate 2 '0' ++ digits)) ∧ IsSign ['+'] ∧
      digits ≠ [] ∧ (∀ character ∈ digits, isDigit character = true) ∧
      parseWholeNumber (String.ofList (['+'] ++ digits)) = .ok 9007199254740992) ∧
    parseWholeNumber "9007199254740993" = .ok 9007199254740993 ∧
    ∃ value, parseValue "9007199254740993" = .ok value ∧
      Binary64.IsNearest (9007199254740993 : Int) value ∧ value.toRat = 9007199254740992 := by
  intro raw digits
  obtain ⟨values, shown, ⟨_, blanks⟩, _, zeros⟩ := whole_numbers_are_values raw
  have read : parseWholeNumber raw = .ok 9007199254740992 := by decide +kernel
  let sample : Sample := ⟨[], ⟨.zero false, raw⟩⟩
  have sameText : sample.value = raw := rfl
  have contributes : Capacity.Contributes sample :=
    ⟨9007199254740992, parseWholeNumber_eq_ok_iff.mp read, by decide⟩
  obtain ⟨value, found, _, exact⟩ := values 9007199254740992 read
  have split : raw = String.ofList (['+'] ++ (List.replicate 2 '0' ++ digits)) := by decide +kernel
  have checked : digits.all isDigit = true := by decide +kernel
  have allDigits := List.all_eq_true.mp checked
  refine ⟨⟨read, by decide, value, found, ?_⟩, ⟨contributes, shown sample sameText contributes⟩,
    ⟨by decide, by decide, ?_⟩, ⟨split, .inr (.inl rfl), by decide +kernel, allDigits, ?_⟩, ?_⟩
  · exact exact (by decide)
  · rw [blanks.unchanged " \t" "\n" (by decide) (by decide), read]
    rfl
  · exact (zeros ['+'] 2 digits split (.inr (.inl rfl)) (by decide +kernel) allDigits _).mp read
  · have readNext : parseWholeNumber "9007199254740993" = .ok 9007199254740993 := by
      decide +kernel
    obtain ⟨next, foundNext, isNearest, _⟩ :=
      (whole_numbers_are_values "9007199254740993").1 9007199254740993 readNext
    have made : parseValue "9007199254740993" = .ok (.finite false (2 ^ 52) 1) := by
      decide +kernel
    obtain rfl := Except.ok.inj (foundNext.symm.trans made)
    refine ⟨readNext, _, made, isNearest, ?_⟩
    norm_num [Binary64.toRat]

end Metrics
end FleetDashboard
