/-!
# UTF-8

Bytes to characters, one byte at a time.  A byte sequence that is not UTF-8 is
cut into its longest well-formed beginnings, so that one reading serves the
strict decoder (any flaw refuses the whole) and the forgiving one (each flaw
becomes one replacement character).
-/

namespace FleetDashboard
namespace Text
namespace Utf8

/-- A character of which some bytes are still owed. -/
structure Pending where
  /-- Continuation bytes that are still to come, less one. -/
  owed : Nat
  /-- Least value of the next byte. -/
  least : Nat
  /-- Greatest value of the next byte. -/
  greatest : Nat
  /-- Bits read so far. -/
  bits : Nat

/-- Begin a character with its first byte: what is finished by it, and what is
still pending after it.  `none` in the output stands for a flaw. -/
def begin
    (byte : UInt8) : List (Option Char) × Option Pending :=
  let code := byte.toNat
  if code ≤ 0x7F then ([some (Char.ofNat code)], none)
  else if 0xC2 ≤ code ∧ code ≤ 0xDF then ([], some ⟨0, 0x80, 0xBF, code - 0xC0⟩)
  else if code = 0xE0 then ([], some ⟨1, 0xA0, 0xBF, 0⟩)
  else if code = 0xED then ([], some ⟨1, 0x80, 0x9F, 0xD⟩)
  else if 0xE1 ≤ code ∧ code ≤ 0xEF then ([], some ⟨1, 0x80, 0xBF, code - 0xE0⟩)
  else if code = 0xF0 then ([], some ⟨2, 0x90, 0xBF, 0⟩)
  else if 0xF1 ≤ code ∧ code ≤ 0xF3 then ([], some ⟨2, 0x80, 0xBF, code - 0xF0⟩)
  else if code = 0xF4 then ([], some ⟨2, 0x80, 0x8F, 4⟩)
  else ([none], none)

/-- Characters and flaws of a byte sequence, in order. -/
def scan : Option Pending → List UInt8 → List (Option Char)
  | none, [] => []
  | some _, [] => [none]
  | none, byte :: rest =>
      let (finished, pending) := begin byte
      finished ++ scan pending rest
  | some pending, byte :: rest =>
      if pending.least ≤ byte.toNat ∧ byte.toNat ≤ pending.greatest then
        let bits := pending.bits * 64 + (byte.toNat - 0x80)
        match pending.owed with
        | 0 => some (Char.ofNat bits) :: scan none rest
        | owed + 1 => scan (some ⟨owed, 0x80, 0xBF, bits⟩) rest
      else
        let (finished, next) := begin byte
        none :: (finished ++ scan next rest)

/-- The character that stands in for a flaw. -/
def replacement : Char := Char.ofNat 0xFFFD

/-- Decode bytes that must be well-formed. -/
def decode
    (bytes : List UInt8) : Option (List Char) :=
  (scan none bytes).mapM id

/-- Decode any bytes; each flaw becomes one replacement character. -/
def decodeForgiving
    (bytes : List UInt8) : List Char :=
  (scan none bytes).map fun found => found.getD replacement

/-- The bytes of a sequence of characters. -/
def encode
    (characters : List Char) : List UInt8 :=
  characters.flatMap String.utf8EncodeChar

@[simp] theorem encode_append
    (left right : List Char) :
    encode (left ++ right) = encode left ++ encode right := by
  simp [encode]

end Utf8
end Text
end FleetDashboard
