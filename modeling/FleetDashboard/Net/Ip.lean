import FleetDashboard.Net.FormData
import FleetDashboard.Text.Numeral

/-!
# Internet addresses

Addresses of four octets and of eight groups, in the strict form of a socket
address and, for four octets, in the lenient form of a web address, which admits
fewer numbers and other bases.
-/

namespace FleetDashboard
namespace Net

open Text

/-- An address of four octets, as one number. -/
structure Ipv4 where
  value : Nat
  deriving DecidableEq, Repr

namespace Ipv4

/-- An octet in decimal without leading zeros. -/
def readOctet
    (digits : List Char) : Option Nat :=
  if digits.isEmpty || 3 < digits.length || !digits.all isDigit then none
  else if 1 < digits.length && digits.head? == some '0' then none
  else
    let value := digits.foldl (fun sum digit => sum * 10 + (digit.toNat - 48)) 0
    if value ≤ 255 then some value else none

/-- Four octets joined by points. -/
def read?
    (characters : List Char) : Option Ipv4 :=
  match (FormData.pieces '.' characters).mapM readOctet with
  | some [first, second, third, fourth] =>
      some ⟨((first * 256 + second) * 256 + third) * 256 + fourth⟩
  | _ => none

/-- The octets of an address. -/
def octets
    (address : Ipv4) : List Nat :=
  [address.value / Nat.pow 2 24, address.value / Nat.pow 2 16 % 256, address.value / Nat.pow 2 8 % 256,
    address.value % 256]

/-- The text of an address. -/
def write
    (address : Ipv4) : String :=
  ".".intercalate (address.octets.map natText)

/-- The value of a digit in a base of at most sixteen. -/
def digitIn?
    (base : Nat)
    (character : Char) : Option Nat :=
  let value :=
    if '0' ≤ character ∧ character ≤ '9' then character.toNat - 48
    else if 'a' ≤ character ∧ character ≤ 'f' then character.toNat - 87
    else if 'A' ≤ character ∧ character ≤ 'F' then character.toNat - 55
    else base
  if value < base then some value else none

/-- The number of digits in a base; no digits are zero. -/
def readInBase
    (base : Nat)
    (digits : List Char) : Option Nat :=
  (digits.mapM (digitIn? base)).map fun values =>
    values.foldl (fun sum value => sum * base + value) 0

/-- A number in decimal, in octal behind a zero, or in hexadecimal. -/
def readNumber : List Char → Option Nat
  | [] => none
  | '0' :: 'x' :: digits => readInBase 16 digits
  | '0' :: 'X' :: digits => readInBase 16 digits
  | '0' :: digit :: digits => readInBase 8 (digit :: digits)
  | digits => readInBase 10 digits

/-- The parts between points, without an empty last one. -/
def parts
    (characters : List Char) : List (List Char) :=
  let pieces := FormData.pieces '.' characters
  if pieces.getLast? = some [] then pieces.dropLast else pieces

/-- The last part of a host is a number, so that the host must be an address. -/
def endsInNumber
    (characters : List Char) : Bool :=
  match (parts characters).getLast? with
  | some last => (!last.isEmpty && last.all isDigit) || (readNumber last).isSome
  | none => false

/-- An address of at most four numbers, of which the last fills what is left. -/
def readLenient
    (characters : List Char) : Option Ipv4 := do
  let parts := parts characters
  let numbers ← parts.mapM readNumber
  let last ← numbers.getLast?
  let leading := numbers.dropLast
  if 4 < parts.length || leading.any (255 < ·) || Nat.pow 256 (4 - leading.length) ≤ last then none
  else
    pure ⟨leading.foldl (fun sum number => sum * 256 + number) 0 *
      Nat.pow 256 (4 - leading.length) + last⟩

end Ipv4

/-- An address of eight groups of sixteen bits. -/
structure Ipv6 where
  groups : List Nat
  deriving DecidableEq, Repr

namespace Ipv6

/-- A group of one to four hexadecimal digits. -/
def readGroup
    (digits : List Char) : Option Nat :=
  if digits.isEmpty || 4 < digits.length then none else Ipv4.readInBase 16 digits

/-- Groups joined by colons.  The last may be an address of four octets. -/
def readGroups
    (characters : List Char) : Option (List Nat) :=
  if characters.isEmpty then some []
  else
    let pieces := FormData.pieces ':' characters
    match pieces.getLast?.bind Ipv4.read? with
    | some address =>
        (pieces.dropLast.mapM readGroup).map
          (· ++ [address.value / Nat.pow 2 16, address.value % Nat.pow 2 16])
    | none => pieces.mapM readGroup

/-- Split at the first pair of colons. -/
def splitAtGap : List Char → List Char × Option (List Char)
  | ':' :: ':' :: rest => ([], some rest)
  | character :: rest =>
      let (front, back) := splitAtGap rest
      (character :: front, back)
  | [] => ([], none)

/-- Eight groups, or fewer around a gap that stands for at least one of zero. -/
def read?
    (characters : List Char) : Option Ipv6 :=
  match splitAtGap characters with
  | (front, none) =>
      (readGroups front).bind fun groups =>
        if groups.length = 8 then some ⟨groups⟩ else none
  | (front, some back) => do
      if front.contains '.' then none
      let front ← readGroups front
      let back ← readGroups back
      if 7 < front.length + back.length then none
      else
        pure ⟨front ++ List.replicate (8 - front.length - back.length) 0 ++ back⟩

/-- The length of the run of zeros in front. -/
def zerosInFront
    (groups : List Nat) : Nat :=
  (groups.takeWhile (· == 0)).length

/-- Start and length of the first among the longest runs of zeros. -/
def longestZeros : Nat → List Nat → Nat × Nat
  | _, [] => (0, 0)
  | start, group :: rest =>
      let here := zerosInFront (group :: rest)
      let later := longestZeros (start + 1) rest
      if later.2 ≤ here then (start, here) else later

/-- A group in hexadecimal. -/
def groupText
    (group : Nat) : String :=
  String.ofList (Nat.toDigits 16 group)

/-- The text of an address: the first of the longest runs of at least two zeros
is a gap. -/
def write
    (address : Ipv6) : String :=
  let (start, length) := longestZeros 0 address.groups
  if length < 2 then ":".intercalate (address.groups.map groupText)
  else
    ":".intercalate ((address.groups.take start).map groupText) ++ "::" ++
      ":".intercalate ((address.groups.drop (start + length)).map groupText)

/-- The address of four octets that is embedded in an address, if there is one. -/
def embedded?
    (address : Ipv6) : Option Ipv4 :=
  match address.groups with
  | [0, 0, 0, 0, 0, 0xFFFF, high, low] => some ⟨high * Nat.pow 2 16 + low⟩
  | _ => none

/-- The text of an address; embedded octets are written as such. -/
def writeWithOctets
    (address : Ipv6) : String :=
  match address.embedded? with
  | some octets => "::ffff:" ++ octets.write
  | none => address.write

end Ipv6
end Net
end FleetDashboard
