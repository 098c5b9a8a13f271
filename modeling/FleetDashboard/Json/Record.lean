import FleetDashboard.Json.Basic

/-!
# Decoding records

A record is written as an object with named members or as an array of its fields
in declared order.  `slots` brings both forms to one list, an optional value per
field; unknown members are ignored, a repeated known member and a surplus item
are refused.
-/

namespace FleetDashboard
namespace Json

/-- A decoder of values. -/
abbrev Decoder (α : Type) := Json → Option α

/-- Values of the members with a given key, in order. -/
def valuesOf
    (key : String)
    (members : List (Option String × Json)) : List Json :=
  members.filterMap fun member =>
    if member.1 = some key then some member.2 else none

/-- The value of a field that may occur once. -/
def slot
    (members : List (Option String × Json))
    (field : String) : Option (Option Json) :=
  match valuesOf field members with
  | [] => some none
  | [value] => some (some value)
  | _ => none

/-- One optional value per declared field. -/
def slots
    (fields : List String) : Json → Option (List (Option Json))
  | .object members =>
      if members.all fun member => member.1.isSome then fields.mapM (slot members)
      else none
  | .array items =>
      if items.length ≤ fields.length then
        some (items.map some ++ List.replicate (fields.length - items.length) none)
      else none
  | _ => none

/-- A text. -/
def decodeText : Decoder String
  | .string text => text
  | _ => none

/-- A truth value. -/
def decodeBool : Decoder Bool
  | .bool truth => some truth
  | _ => none

/-- A binary64 number. -/
def decodeBinary64 : Decoder Number.Binary64
  | .number literal => literal.binary64?
  | _ => none

/-- A whole number in two's complement of the given number of bits. -/
def decodeInt
    (bits : Nat) : Decoder Int
  | .number literal =>
      literal.integer?.filter fun value =>
        -(Nat.pow 2 (bits - 1) : Int) ≤ value && value < Nat.pow 2 (bits - 1)
  | _ => none

/-- A list of values of one kind. -/
def decodeList
    (decode : Decoder α) : Decoder (List α)
  | .array items => items.mapM decode
  | _ => none

/-- A value or null. -/
def decodeNullable
    (decode : Decoder α) : Decoder (Option α)
  | .null => some none
  | value => (decode value).map some

/-- A pair written as an array of two. -/
def decodePair
    (first : Decoder α)
    (second : Decoder β) : Decoder (α × β)
  | .array [left, right] => do
      let left ← first left
      let right ← second right
      pure (left, right)
  | _ => none

/-- One of several named alternatives without content: its name, or an object
whose only member has that name and the value null. -/
def decodeName : Decoder String
  | .string text => text
  | .object [(some name, .null)] => some name
  | _ => none

/-- A field that must be present. -/
def required
    (decode : Decoder α) : Option Json → Option α
  | some value => decode value
  | none => none

/-- A field that has a default when absent. -/
def withDefault
    (default : α)
    (decode : Decoder α) : Option Json → Option α
  | some value => decode value
  | none => some default

end Json
end FleetDashboard
