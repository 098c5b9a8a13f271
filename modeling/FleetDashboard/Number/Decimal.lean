import FleetDashboard.Number.Binary64
import FleetDashboard.Text.Numeral

/-!
# Decimal number texts

The grammar of a decimal number: an optional sign, digits with an optional
point and an optional power of ten, or one of the words for an infinite or an
undefined number.  A decimal denotes the binary64 number nearest to its exact
value.
-/

namespace FleetDashboard
namespace Number

open Text

/-- A decimal number: `± significand * 10 ^ exponent`. -/
structure Decimal where
  negative : Bool
  significand : Nat
  exponent : Int
  deriving DecidableEq, Repr

namespace Decimal

/-- A power of ten beyond which every positive decimal exceeds the range of
binary64, in either direction. -/
def farExponent : Int := 400

/-- The binary64 number nearest to a decimal.  A power of ten that is far out of
range is decided without computing it. -/
def toBinary64
    (decimal : Decimal) : Binary64 :=
  if decimal.significand = 0 then .zero decimal.negative
  else if farExponent < decimal.exponent then .infinite decimal.negative
  else if decimal.exponent < -(farExponent + decimal.significand.log2 + 1) then
    .zero decimal.negative
  else
    .nearest decimal.negative
      (decimal.significand * Nat.pow 10 decimal.exponent.toNat)
      (Nat.pow 10 (-decimal.exponent).toNat)

end Decimal

/-- The value of a run of digits, read on top of a value. -/
def digitsValue
    (value : Nat)
    (digits : List Char) : Nat :=
  digits.foldl (fun sum digit => sum * 10 + (digit.toNat - 48)) value

/-- A sign in front, and what follows it. -/
def splitSign : List Char → Bool × List Char
  | '+' :: rest => (false, rest)
  | '-' :: rest => (true, rest)
  | rest => (false, rest)

/-- The power of ten behind the digits, which must end the text. -/
def readExponent : List Char → Option Int
  | [] => some 0
  | mark :: rest =>
      if mark = 'e' ∨ mark = 'E' then
        let (negative, digits) := splitSign rest
        if digits.isEmpty || !digits.all isDigit then none
        else
          let magnitude : Int := digitsValue 0 digits
          some (if negative then -magnitude else magnitude)
      else none

/-- An unsigned decimal: at least one digit before or behind the point. -/
def readDecimal
    (negative : Bool)
    (characters : List Char) : Option Decimal :=
  let whole := characters.takeWhile isDigit
  let rest := characters.dropWhile isDigit
  let (fraction, rest) :=
    match rest with
    | '.' :: behind => (behind.takeWhile isDigit, behind.dropWhile isDigit)
    | _ => ([], rest)
  if whole.isEmpty && fraction.isEmpty then none
  else
    (readExponent rest).map fun exponent =>
      { negative := negative
        significand := digitsValue (digitsValue 0 whole) fraction
        exponent := exponent - fraction.length }

/-- A word compared without regard to the case of ASCII letters. -/
def isWord
    (word : String)
    (characters : List Char) : Bool :=
  characters.map Char.toLower == word.toList

namespace Binary64

/-- Read a number text: a decimal, or a word for an infinite or an undefined
number. -/
def read?
    (characters : List Char) : Option Binary64 :=
  let (negative, magnitude) := splitSign characters
  if isWord "inf" magnitude || isWord "infinity" magnitude then some (infinite negative)
  else if isWord "nan" magnitude then some notNumber
  else (readDecimal negative magnitude).map Decimal.toBinary64

end Binary64
end Number
end FleetDashboard
