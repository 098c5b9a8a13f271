import FleetDashboard.Text.Utf8

/-!
# Percent escapes

A byte that may not stand for itself is written as a percent sign and two
hexadecimal digits.  Reading leaves a percent sign without two digits as it is.
-/

namespace FleetDashboard
namespace Net
namespace Percent

/-- The value of a hexadecimal digit. -/
def hexValue?
    (byte : UInt8) : Option UInt8 :=
  if 0x30 ≤ byte ∧ byte ≤ 0x39 then some (byte - 0x30)
  else if 0x61 ≤ byte ∧ byte ≤ 0x66 then some (byte - 0x57)
  else if 0x41 ≤ byte ∧ byte ≤ 0x46 then some (byte - 0x37)
  else none

/-- The byte that two hexadecimal digits name. -/
def escaped?
    (high low : UInt8) : Option UInt8 := do
  let high ← hexValue? high
  let low ← hexValue? low
  pure (high * 16 + low)

/-- Replace every escape by the byte that it names. -/
def decode : List UInt8 → List UInt8
  | [] => []
  | [byte] => [byte]
  | [first, second] => [first, second]
  | mark :: high :: low :: rest =>
      match if mark = 0x25 then escaped? high low else none with
      | some byte => byte :: decode rest
      | none => mark :: decode (high :: low :: rest)

/-- A hexadecimal digit in upper case. -/
def hexDigit
    (value : Nat) : Char :=
  if value < 10 then Char.ofNat (48 + value) else Char.ofNat (55 + value)

/-- The escape of a byte. -/
def escape
    (byte : UInt8) : List Char :=
  ['%', hexDigit (byte.toNat / 16), hexDigit (byte.toNat % 16)]

/-- Escape the bytes of the characters that may not stand for themselves. -/
def encode
    (keep : Char → Bool)
    (characters : List Char) : List Char :=
  characters.flatMap fun character =>
    if keep character then [character]
    else (Text.Utf8.encode [character]).flatMap escape

@[simp] theorem decode_nil : decode [] = [] := rfl

theorem decode_cons_of_ne
    {mark : UInt8}
    (different : mark ≠ 0x25)
    (rest : List UInt8) :
    decode (mark :: rest) = mark :: decode rest := by
  match rest with
  | [] => rfl
  | [_] => rfl
  | _ :: _ :: _ => simp [decode, different]

end Percent
end Net
end FleetDashboard
