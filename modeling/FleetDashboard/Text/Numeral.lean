/-!
# Decimal numerals

Reading of bounded whole numbers and writing of naturals.  A numeral that does
not read names the first character at which reading stops making sense, so that
an invalid digit and a value out of bounds are told apart by position.
-/

namespace FleetDashboard
namespace Text

/-- Why a text is not a whole number within bounds. -/
inductive NumeralFault where
  | empty
  | invalidDigit
  | tooLarge
  | tooSmall
  deriving DecidableEq, Repr

namespace NumeralFault

/-- The wording of a fault. -/
def message : NumeralFault → String
  | empty => "cannot parse integer from empty string"
  | invalidDigit => "invalid digit found in string"
  | tooLarge => "number too large to fit in target type"
  | tooSmall => "number too small to fit in target type"

end NumeralFault

/-- The value of a decimal digit. -/
def digit?
    (character : Char) : Option Nat :=
  if '0' ≤ character ∧ character ≤ '9' then some (character.toNat - 48) else none

/-- A decimal digit. -/
def isDigit
    (character : Char) : Bool :=
  (digit? character).isSome

/-- Read digits on top of a value already read.  The first character that is no
digit, or that carries the value beyond `highest`, decides. -/
def readDigits
    (highest : Nat)
    (excess : NumeralFault) :
    Nat → List Char → Except NumeralFault Nat
  | value, [] => .ok value
  | value, character :: rest =>
      match digit? character with
      | none => .error .invalidDigit
      | some digit =>
          if highest < value * 10 + digit then .error excess
          else readDigits highest excess (value * 10 + digit) rest

/-- A non-empty run of digits. -/
def readMagnitude
    (highest : Nat)
    (excess : NumeralFault) : List Char → Except NumeralFault Nat
  | [] => .error .invalidDigit
  | digits => readDigits highest excess 0 digits

/-- A natural number up to `highest`, with an optional plus sign. -/
def readNat
    (highest : Nat) : List Char → Except NumeralFault Nat
  | [] => .error .empty
  | '+' :: digits => readMagnitude highest .tooLarge digits
  | digits => readMagnitude highest .tooLarge digits

/-- A whole number in two's complement of the given number of bits, with an
optional sign. -/
def readInt
    (bits : Nat) : List Char → Except NumeralFault Int
  | [] => .error .empty
  | '+' :: digits =>
      (readMagnitude (Nat.pow 2 (bits - 1) - 1) .tooLarge digits).map Int.ofNat
  | '-' :: digits =>
      (readMagnitude (Nat.pow 2 (bits - 1)) .tooSmall digits).map fun value => -Int.ofNat value
  | digits =>
      (readMagnitude (Nat.pow 2 (bits - 1) - 1) .tooLarge digits).map Int.ofNat

/-- The decimal digits of a natural number. -/
def natDigits
    (value : Nat) : List Char :=
  Nat.toDigits 10 value

/-- The decimal digits of a natural number, with leading zeros up to a width. -/
def paddedDigits
    (width value : Nat) : List Char :=
  let digits := natDigits value
  List.replicate (width - digits.length) '0' ++ digits

/-- A natural number in decimal. -/
def natText
    (value : Nat) : String :=
  String.ofList (natDigits value)

/-- A whole number in decimal, with a minus sign when it is negative. -/
def intText
    (value : Int) : String :=
  if value < 0 then String.ofList ('-' :: natDigits value.natAbs)
  else natText value.natAbs

/-- A natural number of at least two digits. -/
def twoDigits
    (value : Nat) : String :=
  String.ofList (paddedDigits 2 value)

@[simp] theorem readDigits_nil
    (highest : Nat)
    (excess : NumeralFault)
    (value : Nat) :
    readDigits highest excess value [] = .ok value := rfl

end Text
end FleetDashboard
