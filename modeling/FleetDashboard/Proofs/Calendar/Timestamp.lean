import FleetDashboard.Calendar.Timestamp
import FleetDashboard.Proofs.Calendar.Civil
import FleetDashboard.Proofs.Text.Digits

/-!
# Time stamps that are written and read

Every instant that a time stamp denotes is written as a time stamp that denotes it, to
the nanosecond.  A leap second stands at the end of its minute also in universal time,
because offsets are whole minutes.
-/

namespace FleetDashboard
namespace Calendar

/-- Seconds are the days before a date and the seconds since midnight. -/
theorem Instant.secondOfDay_spec
    (instant : Instant) :
    instant.secondOfDay < 86400 ∧
      instant.date.day * (secondsPerDay : Int) + instant.secondOfDay = instant.seconds := by
  simp only [secondOfDay, date, secondsPerDay]
  omega

namespace Timestamp

open Number Text

/-! ## Digits in fields -/

theorem readDigitsUpTo_append
    {width : Nat}
    {digits rest : List Char}
    (allDigits : ∀ character ∈ digits, isDigit character = true)
    (filled : digits ≠ [])
    (fits : digits.length ≤ width)
    (ends : digits.length = width ∨ EndsDigits rest) :
    readDigitsUpTo width (digits ++ rest) = some (digitsValue 0 digits, rest) := by
  have stops : EndsDigits (rest.take (width - digits.length)) := by
    rcases ends with full | ends
    · rw [full, Nat.sub_self, List.take_zero]
      exact endsDigits_nil
    · intro character first
      apply ends character
      rw [List.head?_take] at first
      split at first
      · cases first
      · exact first
  have taken : ((digits ++ rest).take width).takeWhile isDigit = digits := by
    rw [List.take_append, List.take_of_length_le fits]
    exact takeWhile_digits_append allDigits stops
  rw [readDigitsUpTo, taken, List.drop_left]
  simp [filled, digitsValue]

theorem readDigitRun_append
    {digits rest : List Char}
    (allDigits : ∀ character ∈ digits, isDigit character = true)
    (filled : digits ≠ [])
    (ends : EndsDigits rest) :
    readDigitRun (digits ++ rest) = some (digitsValue 0 digits, rest) :=
  readDigitsUpTo_append allDigits filled (by simp) (.inr ends)

theorem readDigitsUpTo_paddedDigits
    {width value : Nat}
    (positive : 0 < width)
    (fits : value < 10 ^ width)
    (rest : List Char) :
    readDigitsUpTo width (paddedDigits width value ++ rest) = some (value, rest) := by
  have full := length_paddedDigits positive fits
  rw [readDigitsUpTo_append (fun _ => isDigit_of_mem_paddedDigits)
    (paddedDigits_ne_nil width value) (Nat.le_of_eq full) (.inl full), digitsValue_paddedDigits]

theorem trimFront_paddedDigits
    (width value : Nat)
    (rest : List Char) :
    trimFront (paddedDigits width value ++ rest) = paddedDigits width value ++ rest := by
  obtain ⟨first, others, digits, digit⟩ := exists_cons_eq_paddedDigits width value
  rw [digits, List.cons_append, trimFront_of_not_blank (isBlank_of_isDigit digit)]

theorem readTwoDigits_paddedDigits
    {least greatest value : Nat}
    (notBelow : least ≤ value)
    (notAbove : value ≤ greatest)
    (fits : value < 100)
    (rest : List Char) :
    readTwoDigits least greatest (paddedDigits 2 value ++ rest) = some (value, rest) := by
  rw [readTwoDigits, trimFront_paddedDigits, readDigitsUpTo_paddedDigits (by decide) fits]
  simp [notBelow, notAbove]

theorem skipMark_cons
    (mark : Char)
    (notBlank : isBlank mark = false)
    (rest : List Char) :
    skipMark mark (mark :: rest) = some rest := by
  rw [skipMark, trimFront_of_not_blank notBlank]
  simp

/-! ## Years -/

/-- A year within four digits is written without a sign, any other one with it; digits
behind a sign are read to their end. -/
theorem readYear_writeYear
    (year : Int)
    {rest : List Char}
    (ends : EndsDigits rest) :
    readYear (writeYear year ++ rest) = some (year, rest) := by
  rw [writeYear]
  split
  · rename_i short
    have read : readDigitsUpTo 4 (paddedDigits 4 year.toNat ++ rest) = some (year.toNat, rest) :=
      readDigitsUpTo_paddedDigits (by decide) (by omega) rest
    have trimmed := trimFront_paddedDigits 4 year.toNat rest
    obtain ⟨first, others, digits, digit⟩ := exists_cons_eq_paddedDigits 4 year.toNat
    rw [digits, List.cons_append] at read trimmed ⊢
    rw [readYear, trimmed]
    split
    · rename_i minus
      exact absurd (List.cons.inj minus).1 (ne_of_isDigit digit (by decide))
    · rename_i plus
      exact absurd (List.cons.inj plus).1 (ne_of_isDigit digit (by decide))
    · rw [read]
      simp [short.1]
  · rename_i long
    have read := readDigitRun_append (fun _ => isDigit_of_mem_paddedDigits)
      (paddedDigits_ne_nil 4 year.natAbs) ends
    rw [digitsValue_paddedDigits] at read
    by_cases negative : year < 0
    · rw [if_pos negative, List.cons_append, readYear, trimFront_of_not_blank (by decide)]
      simp only [read, Option.map_some, Option.some.injEq, Prod.mk.injEq, and_true]
      omega
    · rw [if_neg negative, List.cons_append, readYear, trimFront_of_not_blank (by decide)]
      simp only [read, Option.map_some, Option.some.injEq, Prod.mk.injEq, and_true]
      omega

/-! ## Dates and times of day -/

theorem readDate_append
    {date : Date}
    (represented : date.isRepresented = true)
    (rest : List Char) :
    readDate (writeYear date.year ++ '-' :: (paddedDigits 2 date.month ++ '-' ::
      (paddedDigits 2 date.dayOfMonth ++ rest))) = some (date, rest) := by
  obtain ⟨positive, inYear⟩ := date.month_bounds
  obtain ⟨notBefore, inMonth, _⟩ := date.day_eq
  have short := (daysInMonth_bounds (isLeapYear date.year) positive inYear).2
  have year : ∀ behind, readYear (writeYear date.year ++ '-' :: behind) =
      some (date.year, '-' :: behind) :=
    fun behind => readYear_writeYear date.year (endsDigits_cons (by decide) behind)
  have month := readTwoDigits_paddedDigits positive inYear (by omega)
    ('-' :: (paddedDigits 2 date.dayOfMonth ++ rest))
  have day : readTwoDigits 1 31 (paddedDigits 2 date.dayOfMonth ++ rest) =
      some (date.dayOfMonth, rest) :=
    readTwoDigits_paddedDigits notBefore (by omega) (by omega) rest
  simp only [readDate, year, skipMark_cons '-' (by decide), month, day,
    Date.ofCivil?_civil represented, Option.bind_eq_bind, Option.bind_some, Option.pure_def]

/-- Behind the digits of a second comes its fraction or what is no fraction. -/
def EndsSecond
    (rest : List Char) : Prop :=
  EndsDigits rest ∧ rest.head? ≠ some '.'

theorem readFraction_places
    {width value : Nat}
    (positive : 0 < width)
    (short : width ≤ 9)
    (fits : value < 10 ^ width)
    {rest : List Char}
    (ends : EndsDigits rest) :
    readFraction ('.' :: (paddedDigits width value ++ rest)) =
      some (value * 10 ^ (9 - width), rest) := by
  have full := length_paddedDigits positive fits
  have read := readDigitsUpTo_append (fun _ => isDigit_of_mem_paddedDigits)
    (paddedDigits_ne_nil width value) (full.trans_le short) (.inr ends)
  have dropped : ([] ++ rest).dropWhile isDigit = rest := dropWhile_digits_append (by simp) ends
  rw [List.nil_append] at dropped
  rw [digitsValue_paddedDigits] at read
  simp only [readFraction, read, Option.map_some, List.length_append, full,
    Nat.add_sub_cancel_right, Nat.pow_eq, dropped]

/-- The fraction of a second reads back, however many places it needs. -/
theorem readFraction_writeFraction
    {nanos : Nat}
    (bounded : nanos < nanosPerSecond)
    {rest : List Char}
    (ends : EndsSecond rest) :
    readFraction (writeFraction nanos ++ rest) = some (nanos, rest) := by
  rw [nanosPerSecond] at bounded
  rw [writeFraction]
  split
  · rename_i whole
    rw [whole, List.nil_append, readFraction]
    rintro rest rfl
    exact ends.2 rfl
  split
  · rename_i millis
    rw [List.cons_append, readFraction_places (by decide) (by decide) (by omega) ends.1]
    congr 2
    omega
  split
  · rename_i micros
    rw [List.cons_append, readFraction_places (by decide) (by decide) (by omega) ends.1]
    congr 2
    omega
  · rw [List.cons_append, readFraction_places (by decide) (by decide) (by omega) ends.1]
    congr 2
    omega

theorem readTimeOfDay_append
    {hour minute shown nanos : Nat}
    (hourBound : hour ≤ 23)
    (minuteBound : minute ≤ 59)
    (shownBound : shown ≤ 60)
    (bounded : nanos < nanosPerSecond)
    {rest : List Char}
    (ends : EndsSecond rest) :
    readTimeOfDay (paddedDigits 2 hour ++ ':' :: (paddedDigits 2 minute ++ ':' ::
        (paddedDigits 2 shown ++ (writeFraction nanos ++ rest)))) =
      some (if shown = 60 then (hour * 3600 + minute * 60 + 59, nanosPerSecond + nanos)
        else (hour * 3600 + minute * 60 + shown, nanos), rest) := by
  simp only [readTimeOfDay,
    readTwoDigits_paddedDigits (Nat.zero_le hour) hourBound (by omega),
    readTwoDigits_paddedDigits (Nat.zero_le minute) minuteBound (by omega),
    readTwoDigits_paddedDigits (Nat.zero_le shown) shownBound (by omega),
    skipMark_cons ':' (by decide), readFraction_writeFraction bounded ends,
    Option.bind_eq_bind, Option.bind_some, Option.pure_def]
  split <;> simp

/-- A time of day reads back; a leap second is written as the sixtieth of its minute. -/
theorem readTimeOfDay_write
    {second nanos : Nat}
    (withinDay : second < 86400)
    (bounded : nanos < 2 * nanosPerSecond)
    (leap : nanosPerSecond ≤ nanos → second % 60 = 59)
    {rest : List Char}
    (ends : EndsSecond rest) :
    readTimeOfDay (paddedDigits 2 (second / 3600) ++ ':' ::
        (paddedDigits 2 (second / 60 % 60) ++ ':' ::
          (paddedDigits 2 (if nanosPerSecond ≤ nanos then second % 60 + 1 else second % 60) ++
            (writeFraction (if nanosPerSecond ≤ nanos then nanos - nanosPerSecond else nanos) ++
              rest)))) =
      some ((second, nanos), rest) := by
  by_cases isLeap : nanosPerSecond ≤ nanos
  · have last := leap isLeap
    rw [if_pos isLeap, if_pos isLeap, readTimeOfDay_append (by omega) (by omega) (by omega)
      (by omega) ends, if_pos (by omega), Nat.add_sub_cancel' isLeap]
    congr 3
    omega
  · rw [if_neg isLeap, if_neg isLeap, readTimeOfDay_append (by omega) (by omega) (by omega)
      (by omega) ends, if_neg (by omega)]
    congr 3
    omega

/-! ## Instants that a time stamp denotes -/

/-- A time stamp can denote the instant: its date is represented, and a leap second
follows the last second of a minute. -/
structure IsDenotable
    (instant : Instant) : Prop where
  represented : instant.date.isRepresented = true
  bounded : instant.nanos < 2 * nanosPerSecond
  leap : nanosPerSecond ≤ instant.nanos → instant.secondOfDay % 60 = 59

theorem readOffset_universal : readOffset ['Z'] = some (0, []) := by decide

/-- What is written for an instant is read as that instant. -/
theorem readCharacters_writeCharacters
    {instant : Instant}
    (denotable : IsDenotable instant) :
    readCharacters (writeCharacters instant) = some instant := by
  obtain ⟨withinDay, sum⟩ := instant.secondOfDay_spec
  have ends : EndsSecond ['Z'] := ⟨endsDigits_cons (by decide) [], by decide⟩
  have sameInstant : (⟨instant.date.day * (secondsPerDay : Int) + instant.secondOfDay - 0,
      instant.nanos⟩ : Instant) = instant := by
    rw [Int.sub_zero, sum]
  simp only [readCharacters, writeCharacters, readDate_append denotable.represented,
    readTimeOfDay_write withinDay denotable.bounded denotable.leap ends, readOffset_universal,
    sameInstant, denotable.represented, Option.bind_eq_bind, Option.bind_some, or_true, true_or,
    if_true]
  rfl

/-! ## The form of what is written -/

theorem length_writeFraction
    {nanos : Nat}
    (bounded : nanos < nanosPerSecond) :
    (writeFraction nanos).length ∈ [0, 4, 7, 10] := by
  rw [nanosPerSecond] at bounded
  rw [writeFraction]
  split
  · simp
  split
  · rw [List.length_cons, length_paddedDigits (by decide) (by omega)]
    decide
  split
  · rw [List.length_cons, length_paddedDigits (by decide) (by omega)]
    decide
  · rw [List.length_cons, length_paddedDigits (by decide) (by omega)]
    decide

/-- Only a year that is negative or has more than four digits is written with a sign. -/
theorem exists_cons_eq_writeYear
    (year : Int) :
    ∃ first rest, writeYear year = first :: rest ∧
      (first = '-' ↔ year < 0) ∧ (first = '+' ↔ 9999 < year) := by
  rw [writeYear]
  split
  · obtain ⟨first, others, digits, digit⟩ := exists_cons_eq_paddedDigits 4 year.toNat
    exact ⟨first, others, digits, iff_of_false (ne_of_isDigit digit (by decide)) (by omega),
      iff_of_false (ne_of_isDigit digit (by decide)) (by omega)⟩
  · by_cases negative : year < 0
    · rw [if_pos negative]
      exact ⟨'-', _, rfl, iff_of_true rfl negative, iff_of_false (by decide) (by omega)⟩
    · rw [if_neg negative]
      exact ⟨'+', _, rfl, iff_of_false (by decide) negative, iff_of_true rfl (by omega)⟩

/-- The characters have the form of an instant's stamp: they begin with the sign of a long
or negative year, a leap second is its minute's second sixty, and the fraction behind it
has zero, three, six or nine places. -/
structure IsCanonical
    (instant : Instant)
    (characters : List Char) : Prop where
  minus : characters.head? = some '-' ↔ instant.date.year < 0
  plus : characters.head? = some '+' ↔ 9999 < instant.date.year
  clock : ∃ front fraction, characters = front ++ ':' ::
      ((if nanosPerSecond ≤ instant.nanos then ['6', '0']
        else paddedDigits 2 (instant.secondOfDay % 60)) ++ (fraction ++ ['Z'])) ∧
    fraction.length ∈ [0, 4, 7, 10]

theorem isCanonical_writeCharacters
    {instant : Instant}
    (denotable : IsDenotable instant) :
    IsCanonical instant (writeCharacters instant) := by
  obtain ⟨first, rest, written, minus, plus⟩ := exists_cons_eq_writeYear instant.date.year
  refine ⟨?_, ?_, ?_⟩
  · simpa [writeCharacters, written] using minus
  · simpa [writeCharacters, written] using plus
  · have bounded := denotable.bounded
    refine ⟨writeYear instant.date.year ++ '-' :: (paddedDigits 2 instant.date.month ++ '-' ::
      (paddedDigits 2 instant.date.dayOfMonth ++ 'T' ::
        (paddedDigits 2 (instant.secondOfDay / 3600) ++ ':' ::
          paddedDigits 2 (instant.secondOfDay / 60 % 60)))),
      writeFraction (if nanosPerSecond ≤ instant.nanos then instant.nanos - nanosPerSecond
        else instant.nanos), ?_, length_writeFraction (by split <;> omega)⟩
    have shown : paddedDigits 2 (if nanosPerSecond ≤ instant.nanos
        then instant.secondOfDay % 60 + 1 else instant.secondOfDay % 60) =
          if nanosPerSecond ≤ instant.nanos then ['6', '0']
            else paddedDigits 2 (instant.secondOfDay % 60) := by
      split
      · rename_i isLeap
        rw [denotable.leap isLeap]
        decide
      · rfl
    simp [writeCharacters, shown]

/-! ## Instants that are read -/

/-- Fewer digits than the width have a value that fits them. -/
theorem readDigitsUpTo_lt
    {width value : Nat}
    {characters rest : List Char}
    (read : readDigitsUpTo width characters = some (value, rest)) :
    ∃ count ≤ width, characters.length = count + rest.length ∧ value < 10 ^ count := by
  rw [readDigitsUpTo] at read
  set digits := (characters.take width).takeWhile isDigit
  split at read
  · cases read
  · obtain ⟨rfl, rfl⟩ := Prod.mk.inj (Option.some.inj read)
    have short : digits.length ≤ (characters.take width).length :=
      (List.takeWhile_prefix isDigit).length_le
    rw [List.length_take] at short
    have allDigits : ∀ character ∈ digits, isDigit character = true := fun _ member =>
      List.mem_takeWhile_imp member
    have bounded := digitsValue_lt allDigits 0
    rw [Nat.zero_add, Nat.one_mul] at bounded
    refine ⟨digits.length, by omega, ?_, bounded⟩
    rw [List.length_drop]
    omega

theorem readFraction_lt
    {characters rest : List Char}
    {nanos : Nat}
    (read : readFraction characters = some (nanos, rest)) :
    nanos < nanosPerSecond := by
  unfold readFraction at read
  split at read
  · rename_i places
    obtain ⟨⟨value, behind⟩, digits, same⟩ := Option.map_eq_some_iff.mp read
    obtain ⟨rfl, _⟩ := Prod.mk.inj same
    obtain ⟨count, short, length, bounded⟩ := readDigitsUpTo_lt digits
    have consumed : places.length - behind.length = count := by omega
    rw [consumed, Nat.pow_eq]
    calc value * 10 ^ (9 - count)
        < 10 ^ count * 10 ^ (9 - count) :=
          Nat.mul_lt_mul_of_pos_right bounded (Nat.pow_pos (by decide))
      _ = nanosPerSecond := by rw [← Nat.pow_add, Nat.add_sub_cancel' short]; rfl
  · cases read
    decide

/-- A leap second is read only behind the last second of a minute. -/
theorem readTimeOfDay_leap
    {characters rest : List Char}
    {second nanos : Nat}
    (read : readTimeOfDay characters = some ((second, nanos), rest)) :
    nanos < 2 * nanosPerSecond ∧ (nanosPerSecond ≤ nanos → second % 60 = 59) := by
  simp only [readTimeOfDay, Option.bind_eq_bind, Option.bind_eq_some_iff, Prod.exists,
    Option.pure_def, Option.some.injEq, Prod.mk.injEq] at read
  obtain ⟨hour, _, _, _, _, minute, _, _, _, _, shown, _, _, fraction, _, fractionRead,
    ⟨rfl, rfl⟩, _⟩ := read
  have bounded := readFraction_lt fractionRead
  by_cases leap : shown = 60
  · simp only [leap, if_true]
    omega
  · simp only [leap, if_false]
    omega

/-- Offsets are whole minutes. -/
theorem readOffset_minutes
    {characters rest : List Char}
    {offset : Int}
    (read : readOffset characters = some (offset, rest)) :
    offset % 60 = 0 := by
  rw [readOffset] at read
  dsimp only at read
  split at read
  · cases read
    rfl
  split at read
  · cases read
  split at read
  · simp only [Option.bind_eq_bind, Option.bind_some, Option.bind_eq_some_iff, Prod.exists] at read
    obtain ⟨hours, _, _, minutes, _, _, east⟩ := read
    split at east
    · cases east
      rw [if_neg Bool.false_ne_true]
      omega
    · cases east
  split at read
  · simp only [Option.bind_eq_bind, Option.bind_some, Option.bind_eq_some_iff, Prod.exists] at read
    obtain ⟨hours, _, _, minutes, _, _, west⟩ := read
    split at west
    · cases west
      rw [if_pos trivial]
      omega
    · cases west
  · cases read

/-- What a time stamp denotes can be denoted. -/
theorem isDenotable_of_readCharacters
    {characters : List Char}
    {instant : Instant}
    (read : readCharacters characters = some instant) :
    IsDenotable instant := by
  simp only [readCharacters, Option.bind_eq_bind, Option.bind_eq_some_iff, Prod.exists] at read
  obtain ⟨date, behindDate, _, read⟩ := read
  split at read
  swap
  · cases read
  split at read
  swap
  · cases read
  simp only [Option.bind_some, Option.bind_eq_some_iff, Prod.exists] at read
  obtain ⟨second, nanos, behindTime, time, offset, _, shift, read⟩ := read
  split at read
  · cases read
  split at read
  · rename_i represented
    cases read
    obtain ⟨bounded, leap⟩ := readTimeOfDay_leap time
    have minutes := readOffset_minutes shift
    refine ⟨represented, bounded, ?_⟩
    intro isLeap
    -- An offset of whole minutes leaves a second in its place within the minute.
    have last := leap isLeap
    rw [Instant.secondOfDay, secondsPerDay]
    dsimp only
    omega
  · cases read

/-- A time stamp that has been read is written as one that reads the same. -/
theorem read?_write
    {stamp : String}
    {instant : Instant}
    (read : read? stamp = some instant) :
    read? (write instant) = some instant := by
  rw [read?, write, String.toList_ofList]
  exact readCharacters_writeCharacters (isDenotable_of_readCharacters read)

/-- A leap second keeps its fraction, its offset is gone. -/
example :
    (read? "2024-03-02 10:00:60.5+01:00").map write = some "2024-03-02T09:00:60.500Z" := by
  decide +kernel

theorem isCanonical_write
    {stamp : String}
    {instant : Instant}
    (read : read? stamp = some instant) :
    IsCanonical instant (write instant).toList := by
  rw [write, String.toList_ofList]
  exact isCanonical_writeCharacters (isDenotable_of_readCharacters read)

end Timestamp
end Calendar
end FleetDashboard
