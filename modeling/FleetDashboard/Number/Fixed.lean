import FleetDashboard.Number.Binary64
import FleetDashboard.Text.Numeral

/-!
# Fixed decimal places

The text of a binary64 number with a fixed count of decimal places.  The exact
binary value is rounded to the last place, ties to the even digit, so the text
depends on the number alone and never on an intermediate decimal form.
-/

namespace FleetDashboard
namespace Number

open Text

/-- Digits with a point in front of the last `places` ones. -/
def pointed
    (places magnitude : Nat) : List Char :=
  let digits := paddedDigits (places + 1) magnitude
  let whole := digits.length - places
  digits.take whole ++ '.' :: digits.drop whole

namespace Binary64

/-- The magnitude of a finite number in units of the last decimal place. -/
def inPlaces
    (places significand : Nat)
    (exponent : Int) : Nat :=
  halfEven (significand * Nat.pow 10 places * Nat.pow 2 exponent.toNat) (Nat.pow 2 (-exponent).toNat)

/-- The text with a positive count of decimal places.  A negative sign is kept
also in front of a zero. -/
def fixedText
    (places : Nat) : Binary64 → String
  | finite negative significand exponent =>
      let digits := pointed places (inPlaces places significand exponent)
      String.ofList (if negative then '-' :: digits else digits)
  | infinite negative => if negative then "-inf" else "inf"
  | notNumber => "NaN"

@[simp] theorem fixedText_infinite
    (places : Nat)
    (negative : Bool) :
    fixedText places (infinite negative) = if negative then "-inf" else "inf" := rfl

end Binary64
end Number
end FleetDashboard
