import FleetDashboard.Number.Decimal

/-!
# JSON values as they are written

A value keeps what a decoder may still have to judge: the digits of a number,
the order and the repetitions of an object's members, and whether a string
literal denotes a text at all (an escape may name one half of a surrogate pair).
-/

namespace FleetDashboard

/-- A number literal.  `exponent` is absent when the literal has none. -/
structure JsonNumber where
  negative : Bool
  whole : List Char
  fraction : List Char
  exponent : Option Int
  deriving DecidableEq, Repr

/-- A JSON value.  A string or a member's key is `none` when its literal is
well-formed but denotes no text. -/
inductive Json where
  | null
  | bool
      (truth : Bool)
  | number
      (literal : JsonNumber)
  | string
      (text : Option String)
  | array
      (items : List Json)
  | object
      (members : List (Option String × Json))
  deriving Repr, Inhabited

namespace JsonNumber

open Number

/-- Greatest whole number of sixty-four bits. -/
def greatestNatural : Nat := Nat.pow 2 64 - 1

/-- Read digits on top of a value until one would carry it beyond sixty-four
bits.  The second component counts the digits read. -/
def absorb : Nat → List Char → Nat × Nat
  | value, [] => (value, 0)
  | value, digit :: rest =>
      let next := value * 10 + (digit.toNat - 48)
      if greatestNatural < next then (value, 0)
      else
        let (final, count) := absorb next rest
        (final, count + 1)

/-- The literal has neither point nor power of ten. -/
def isIntegral
    (number : JsonNumber) : Bool :=
  number.fraction.isEmpty && number.exponent.isNone

/-- The whole number of an integral literal within sixty-four bits.  A negative
zero is no whole number. -/
def integer?
    (number : JsonNumber) : Option Int :=
  let magnitude := digitsValue 0 number.whole
  if !number.isIntegral then none
  else if number.negative then
    if 0 < magnitude ∧ magnitude ≤ Nat.pow 2 63 then some (-(magnitude : Int)) else none
  else if magnitude ≤ greatestNatural then some magnitude
  else none

/-- The nearest binary64 number to a power of ten. -/
def powerOfTen
    (exponent : Nat) : Binary64 :=
  .ofNat (Nat.pow 10 exponent)

/-- Scale a number by a power of ten in steps of at most `10 ^ 308`, each rounded.
A result beyond the largest finite number is refused. -/
def scaleByTen : Nat → Binary64 → Int → Option Binary64
  | 0, value, _ => some value
  | steps + 1, value, exponent =>
      if exponent.natAbs ≤ 308 then
        if 0 ≤ exponent then
          let product := value.mul (powerOfTen exponent.natAbs)
          if product.isFinite then some product else none
        else some (value.div (powerOfTen exponent.natAbs))
      else if !value.isPositive then some value
      else if 0 ≤ exponent then none
      else scaleByTen steps (value.div (powerOfTen 308)) (exponent + 308)

/-- The binary64 number of a literal: sixty-four bits of digits, then one scaling
by a power of ten.  Digits beyond those bits only count as places. -/
def binary64?
    (number : JsonNumber) : Option Binary64 :=
  let (significand, wholeRead) := absorb 0 number.whole
  let (significand, fractionRead) := absorb significand number.fraction
  let exponent : Int :=
    ((number.whole.length - wholeRead : Nat) : Int) - fractionRead +
      number.exponent.getD 0
  let magnitude :=
    if number.isIntegral && wholeRead == number.whole.length then
      some (Binary64.ofNat significand)
    else scaleByTen 4 (.ofNat significand) exponent
  magnitude.map fun value => if number.negative then value.negate else value

end JsonNumber

namespace Json

/-- The string value of a text. -/
def text
    (content : String) : Json :=
  .string (some content)

/-- The number value of a natural number. -/
def nat
    (value : Nat) : Json :=
  .number ⟨false, Text.natDigits value, [], none⟩

/-- The number value of a whole number. -/
def int
    (value : Int) : Json :=
  .number ⟨value < 0, Text.natDigits value.natAbs, [], none⟩

/-- An object whose members are named in order. -/
def record
    (members : List (String × Json)) : Json :=
  .object (members.map fun member => (some member.1, member.2))

/-- The string value of a text, or null. -/
def optionalText : Option String → Json
  | some content => text content
  | none => null

mutual

/-- A value that can be held and judged later: every string denotes a text,
every number is within range, and containers nest at most `depth` deep. -/
def isHoldable : Nat → Json → Bool
  | _, .null => true
  | _, .bool _ => true
  | _, .number literal => literal.binary64?.isSome
  | _, .string text => text.isSome
  | 0, .array _ => false
  | depth + 1, .array items => areHoldable depth items
  | 0, .object _ => false
  | depth + 1, .object members => areMembersHoldable depth members

/-- All items can be held. -/
def areHoldable : Nat → List Json → Bool
  | _, [] => true
  | depth, item :: rest => isHoldable depth item && areHoldable depth rest

/-- All keys denote texts and all members' values can be held. -/
def areMembersHoldable : Nat → List (Option String × Json) → Bool
  | _, [] => true
  | depth, (key, value) :: rest =>
      key.isSome && isHoldable depth value && areMembersHoldable depth rest

end

end Json
end FleetDashboard
