/-!
# Rounding a quotient of naturals

The whole number nearest to a quotient.  Of two that are equally near `halfEven` takes
the even one, for binary digits and decimal places alike, and `halfUp` the greater
one, for whole numbers.
-/

namespace FleetDashboard
namespace Number

/-- The natural number nearest to a quotient, ties to even. -/
def halfEven
    (numerator denominator : Nat) : Nat :=
  let quotient := numerator / denominator
  let twice := 2 * (numerator % denominator)
  if twice < denominator then quotient
  else if denominator < twice then quotient + 1
  else quotient + quotient % 2

/-- The natural number nearest to a quotient, ties upward. -/
def halfUp
    (numerator denominator : Nat) : Nat :=
  (2 * numerator + denominator) / (2 * denominator)

end Number
end FleetDashboard
