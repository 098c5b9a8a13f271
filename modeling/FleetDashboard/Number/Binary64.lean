import FleetDashboard.Number.Quotient

/-!
# Binary64 numbers by exact value

A finite number is a sign, a significand below `2 ^ 53` and a power of two, so
its value is exact and every operation is "compute exactly, round once".  The
rounding is `nearest`: to the nearest representable value, ties to the even
significand, values beyond the largest finite number to infinity.
-/

namespace FleetDashboard
namespace Number

/-- A binary64 number.  The value of `finite negative significand exponent` is
`± significand * 2 ^ exponent`; zero keeps its sign. -/
inductive Binary64 where
  | finite
      (negative : Bool)
      (significand : Nat)
      (exponent : Int)
  | infinite
      (negative : Bool)
  | notNumber
  deriving DecidableEq, Repr

namespace Binary64

/-- Exponent of the smallest positive number. -/
def leastExponent : Int := -1074

/-- Exponent of the unit in the last place of the largest finite number. -/
def greatestExponent : Int := 971

/-- Zero of either sign. -/
def zero
    (negative : Bool) : Binary64 :=
  finite negative 0 leastExponent

/-- The exponent `e` with `2 ^ e ≤ numerator / denominator < 2 ^ (e + 1)`, for
positive arguments. -/
def leadingExponent
    (numerator denominator : Nat) : Int :=
  let guess : Int := (numerator.log2 : Int) - (denominator.log2 : Int)
  if denominator * Nat.pow 2 guess.toNat ≤ numerator * Nat.pow 2 (-guess).toNat then guess
  else guess - 1

/-- Exponent of the unit in the last place for a positive quotient. -/
def unitExponent
    (numerator denominator : Nat) : Int :=
  max (leadingExponent numerator denominator - 52) leastExponent

/-- Build a finite number whose significand may have been carried to `2 ^ 53`;
beyond the largest finite number stands infinity. -/
def carried
    (negative : Bool)
    (significand : Nat)
    (exponent : Int) : Binary64 :=
  if significand = Nat.pow 2 53 then
    if greatestExponent < exponent + 1 then infinite negative
    else finite negative (Nat.pow 2 52) (exponent + 1)
  else if greatestExponent < exponent then infinite negative
  else finite negative significand exponent

/-- The number nearest to a signed quotient, ties to the even significand. -/
def nearest
    (negative : Bool)
    (numerator denominator : Nat) : Binary64 :=
  if numerator = 0 then zero negative
  else
    let unit := unitExponent numerator denominator
    carried negative
      (halfEven (numerator * Nat.pow 2 (-unit).toNat) (denominator * Nat.pow 2 unit.toNat)) unit

/-- The number nearest to a natural multiple of a power of two. -/
def scaled
    (negative : Bool)
    (significand : Nat)
    (exponent : Int) : Binary64 :=
  nearest negative (significand * Nat.pow 2 exponent.toNat) (Nat.pow 2 (-exponent).toNat)

/-- The number nearest to a whole number. -/
def ofInt
    (value : Int) : Binary64 :=
  nearest (value < 0) value.natAbs 1

/-- The number nearest to a natural number. -/
def ofNat
    (value : Nat) : Binary64 :=
  nearest false value 1

/-- One. -/
def one : Binary64 := ofNat 1

/-- One hundred. -/
def hundred : Binary64 := ofNat 100

/-- Neither infinite nor the result of an undefined operation. -/
def isFinite : Binary64 → Bool
  | finite _ _ _ => true
  | infinite _ => false
  | notNumber => false

/-- Greater than zero. -/
def isPositive : Binary64 → Bool
  | finite negative significand _ => !negative && significand != 0
  | infinite negative => !negative
  | notNumber => false

/-- The number of opposite sign. -/
def negate : Binary64 → Binary64
  | finite negative significand exponent => finite (!negative) significand exponent
  | infinite negative => infinite (!negative)
  | notNumber => notNumber

/-- The product, rounded once. -/
def mul : Binary64 → Binary64 → Binary64
  | finite leftNegative left leftExponent, finite rightNegative right rightExponent =>
      scaled (leftNegative ^^ rightNegative) (left * right) (leftExponent + rightExponent)
  | finite leftNegative left _, infinite rightNegative =>
      if left = 0 then notNumber else infinite (leftNegative ^^ rightNegative)
  | infinite leftNegative, finite rightNegative right _ =>
      if right = 0 then notNumber else infinite (leftNegative ^^ rightNegative)
  | infinite leftNegative, infinite rightNegative => infinite (leftNegative ^^ rightNegative)
  | notNumber, _ => notNumber
  | _, notNumber => notNumber

/-- The quotient, rounded once. -/
def div : Binary64 → Binary64 → Binary64
  | finite leftNegative left leftExponent, finite rightNegative right rightExponent =>
      let negative := leftNegative ^^ rightNegative
      if right = 0 then
        if left = 0 then notNumber else infinite negative
      else
        let exponent := leftExponent - rightExponent
        nearest negative (left * Nat.pow 2 exponent.toNat) (right * Nat.pow 2 (-exponent).toNat)
  | finite leftNegative _ _, infinite rightNegative => zero (leftNegative ^^ rightNegative)
  | infinite leftNegative, finite rightNegative _ _ => infinite (leftNegative ^^ rightNegative)
  | infinite _, infinite _ => notNumber
  | notNumber, _ => notNumber
  | _, notNumber => notNumber

/-- The signed significand of a finite number on a grid of smaller exponent. -/
def onGrid
    (grid : Int)
    (negative : Bool)
    (significand : Nat)
    (exponent : Int) : Int :=
  let magnitude : Int := (significand * Nat.pow 2 (exponent - grid).toNat : Nat)
  if negative then -magnitude else magnitude

/-- The difference, rounded once.  An exact difference of zero is positive zero
unless a negative zero is diminished by a positive one. -/
def sub : Binary64 → Binary64 → Binary64
  | finite leftNegative left leftExponent, finite rightNegative right rightExponent =>
      let grid := min leftExponent rightExponent
      let difference :=
        onGrid grid leftNegative left leftExponent -
          onGrid grid rightNegative right rightExponent
      if difference = 0 then zero (leftNegative && !rightNegative && left == 0)
      else scaled (difference < 0) difference.natAbs grid
  | finite _ _ _, infinite negative => infinite (!negative)
  | infinite negative, finite _ _ _ => infinite negative
  | infinite leftNegative, infinite rightNegative =>
      if leftNegative = rightNegative then notNumber else infinite leftNegative
  | notNumber, _ => notNumber
  | _, notNumber => notNumber

/-- The sixty-four bits of the interchange format: sign, biased exponent,
fraction. -/
def bits : Binary64 → Nat
  | finite negative significand exponent =>
      let magnitude :=
        if significand < Nat.pow 2 52 then significand
        else (exponent - leastExponent + 1).toNat * Nat.pow 2 52 + (significand - Nat.pow 2 52)
      (if negative then Nat.pow 2 63 else 0) + magnitude
  | infinite negative => (if negative then Nat.pow 2 63 else 0) + 2047 * Nat.pow 2 52
  | notNumber => 4095 * Nat.pow 2 51

/-- The least whole number of two's complement with sixty-four bits. -/
def leastInteger : Int := -(Nat.pow 2 63 : Int)

/-- The greatest whole number of two's complement with sixty-four bits. -/
def greatestInteger : Int := (Nat.pow 2 63 : Int) - 1

/-- The nearest whole number, halves away from zero, held within sixty-four
bits; an undefined number counts as zero. -/
def roundToInteger : Binary64 → Int
  | finite negative significand exponent =>
      let magnitude : Int :=
        (halfUp (significand * Nat.pow 2 exponent.toNat) (Nat.pow 2 (-exponent).toNat) : Nat)
      max leastInteger (min greatestInteger (if negative then -magnitude else magnitude))
  | infinite negative => if negative then leastInteger else greatestInteger
  | notNumber => 0

@[simp] theorem isFinite_finite
    (negative : Bool)
    (significand : Nat)
    (exponent : Int) :
    (finite negative significand exponent).isFinite = true := rfl

@[simp] theorem isFinite_infinite
    (negative : Bool) :
    (infinite negative).isFinite = false := rfl

@[simp] theorem isFinite_notNumber : notNumber.isFinite = false := rfl

@[simp] theorem nearest_zero
    (negative : Bool)
    (denominator : Nat) :
    nearest negative 0 denominator = zero negative := by
  simp [nearest]

end Binary64
end Number
end FleetDashboard
