import FleetDashboard.Calendar.Instant
import FleetDashboard.Text.Blank
import FleetDashboard.Text.Numeral

/-!
# Time stamps

The text of an instant: `2024-03-02T10:00:00Z`.  Writing is canonical (universal
time, a fraction of 0, 3, 6 or 9 digits).  Reading is lenient about blanks around
fields, the letter between date and time, the length of a signed year and the
spelling of the offset, and strict about every field's range.
-/

namespace FleetDashboard
namespace Calendar
namespace Timestamp

open Text

/-- A field's value and the characters behind it. -/
abbrev Field := Nat × List Char

/-- Read at least one and at most `width` digits. -/
def readDigitsUpTo
    (width : Nat)
    (characters : List Char) : Option Field :=
  let digits := (characters.take width).takeWhile isDigit
  if digits.isEmpty then none
  else some (digits.foldl (fun sum digit => sum * 10 + (digit.toNat - 48)) 0,
    characters.drop digits.length)

/-- Read all digits in front, at least one. -/
def readDigitRun
    (characters : List Char) : Option Field :=
  readDigitsUpTo characters.length characters

/-- Read a field of at most two digits whose value lies within bounds. -/
def readTwoDigits
    (least greatest : Nat)
    (characters : List Char) : Option Field :=
  (readDigitsUpTo 2 (trimFront characters)).filter fun field =>
    least ≤ field.1 && field.1 ≤ greatest

/-- Read a year: four digits at most, or any number of them behind a sign. -/
def readYear
    (characters : List Char) : Option (Int × List Char) :=
  match trimFront characters with
  | '-' :: rest => (readDigitRun rest).map fun field => (-(field.1 : Int), field.2)
  | '+' :: rest => (readDigitRun rest).map fun field => ((field.1 : Int), field.2)
  | rest => (readDigitsUpTo 4 rest).map fun field => ((field.1 : Int), field.2)

/-- Skip blanks, then one given character. -/
def skipMark
    (mark : Char)
    (characters : List Char) : Option (List Char) :=
  match trimFront characters with
  | [] => none
  | first :: rest => if first = mark then some rest else none

/-- Read a date. -/
def readDate
    (characters : List Char) : Option (Date × List Char) := do
  let (year, rest) ← readYear characters
  let rest ← skipMark '-' rest
  let (month, rest) ← readTwoDigits 1 12 rest
  let rest ← skipMark '-' rest
  let (day, rest) ← readTwoDigits 1 31 rest
  let date ← Date.ofCivil? year month day
  pure (date, rest)

/-- Read an optional fraction of a second as nanoseconds.  Digits beyond the
ninth are dropped. -/
def readFraction : List Char → Option Field
  | '.' :: rest =>
      (readDigitsUpTo 9 rest).map fun field =>
        (field.1 * Nat.pow 10 (9 - (rest.length - field.2.length)),
          field.2.dropWhile isDigit)
  | rest => some (0, rest)

/-- Seconds and nanoseconds of a time of day.  Second sixty is the leap second
that follows the fifty-ninth. -/
def readTimeOfDay
    (characters : List Char) : Option ((Nat × Nat) × List Char) := do
  let (hour, rest) ← readTwoDigits 0 23 characters
  let rest ← skipMark ':' rest
  let (minute, rest) ← readTwoDigits 0 59 rest
  let rest ← skipMark ':' rest
  let (second, rest) ← readTwoDigits 0 60 rest
  let (nanos, rest) ← readFraction rest
  let (second, leap) := if second = 60 then (59, nanosPerSecond) else (second, 0)
  pure ((hour * 3600 + minute * 60 + second, leap + nanos), rest)

/-- Two characters that are digits, the first of them at most `highest`. -/
def readPair
    (highest : Char) : List Char → Option Field
  | first :: second :: rest =>
      if isDigit first && isDigit second && first ≤ highest then
        some ((first.toNat - 48) * 10 + (second.toNat - 48), rest)
      else none
  | _ => none

/-- The words and letters for universal time. -/
def skipUniversal : List Char → Option (List Char)
  | first :: second :: third :: rest =>
      if [first, second, third].map Char.toUpper = ['U', 'T', 'C'] then some rest
      else if first = 'Z' ∨ first = 'z' then some (second :: third :: rest)
      else none
  | first :: rest => if first = 'Z' ∨ first = 'z' then some rest else none
  | [] => none

/-- Read an offset from universal time in seconds. -/
def readOffset
    (characters : List Char) : Option (Int × List Char) :=
  let characters := trimFront characters
  match skipUniversal characters with
  | some rest => some (0, rest)
  | none =>
      match characters with
      | [] => none
      | sign :: rest => do
          let negative ←
            if sign = '+' then some false
            else if sign = '-' ∨ sign = '−' then some true
            else none
          let (hours, rest) ← readPair '9' rest
          let rest := rest.dropWhile fun character => character == ':' || isBlank character
          let (minutes, rest) ← readPair '5' rest
          let offset : Int := (hours * 3600 + minutes * 60 : Nat)
          if offset < 86400 then pure (if negative then -offset else offset, rest)
          else none

/-- Read a time stamp. -/
def readCharacters
    (characters : List Char) : Option Instant := do
  let (date, rest) ← readDate characters
  let rest ←
    match rest with
    | letter :: rest =>
        if letter = 't' ∨ letter = 'T' ∨ letter = ' ' then some rest else none
    | [] => none
  let ((seconds, nanos), rest) ← readTimeOfDay rest
  let (offset, rest) ← readOffset rest
  if !(trimFront rest).isEmpty then none
  else
    let instant : Instant :=
      ⟨date.day * (secondsPerDay : Int) + seconds - offset, nanos⟩
    if instant.date.isRepresented then some instant else none

/-- Read a time stamp. -/
def read?
    (text : String) : Option Instant :=
  readCharacters text.toList

/-- A year of at least four digits; outside 0 to 9999 it carries a sign. -/
def writeYear
    (year : Int) : List Char :=
  if 0 ≤ year ∧ year ≤ 9999 then paddedDigits 4 year.toNat
  else (if year < 0 then '-' else '+') :: paddedDigits 4 year.natAbs

/-- The shortest exact fraction of 0, 3, 6 or 9 digits. -/
def writeFraction
    (nanos : Nat) : List Char :=
  if nanos = 0 then []
  else if nanos % 1000000 = 0 then '.' :: paddedDigits 3 (nanos / 1000000)
  else if nanos % 1000 = 0 then '.' :: paddedDigits 6 (nanos / 1000)
  else '.' :: paddedDigits 9 nanos

/-- The canonical text of an instant. -/
def writeCharacters
    (instant : Instant) : List Char :=
  let date := instant.date
  let second := instant.secondOfDay
  let leap := nanosPerSecond ≤ instant.nanos
  let nanos := if leap then instant.nanos - nanosPerSecond else instant.nanos
  let shown := if leap then second % 60 + 1 else second % 60
  writeYear date.year ++ '-' :: (paddedDigits 2 date.month ++ '-' ::
    (paddedDigits 2 date.dayOfMonth ++ 'T' :: (paddedDigits 2 (second / 3600) ++ ':' ::
      (paddedDigits 2 (second / 60 % 60) ++ ':' :: (paddedDigits 2 shown ++
        (writeFraction nanos ++ ['Z']))))))

/-- The canonical text of an instant. -/
def write
    (instant : Instant) : String :=
  String.ofList (writeCharacters instant)

end Timestamp
end Calendar
end FleetDashboard
