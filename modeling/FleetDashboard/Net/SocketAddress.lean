import FleetDashboard.Net.Ip

/-!
# Socket addresses

An internet address and a port.  Eight groups stand in brackets and may carry a
numbered scope.
-/

namespace FleetDashboard
namespace Net

open Text

/-- A socket address. -/
inductive SocketAddress where
  | octets
      (address : Ipv4)
      (port : Nat)
  | groups
      (address : Ipv6)
      (scope port : Nat)
  deriving DecidableEq, Repr

namespace SocketAddress

/-- A decimal number below a bound, without a sign. -/
def readNumeral
    (bound : Nat)
    (digits : List Char) : Option Nat :=
  if digits.isEmpty || !digits.all isDigit then none
  else (readNat (bound - 1) digits).toOption

/-- A port. -/
def readPort
    (digits : List Char) : Option Nat :=
  readNumeral (Nat.pow 2 16) digits

/-- The address and the scope inside brackets. -/
def readScoped
    (characters : List Char) : Option (Ipv6 × Nat) := do
  let address ← Ipv6.read? (characters.takeWhile (· != '%'))
  match characters.dropWhile (· != '%') with
  | [] => pure (address, 0)
  | _ :: scope => do
      let scope ← readNumeral (Nat.pow 2 32) scope
      pure (address, scope)

/-- Read a socket address. -/
def readCharacters
    (characters : List Char) : Option SocketAddress :=
  match characters with
  | '[' :: rest => do
      let (address, scope) ← readScoped (rest.takeWhile (· != ']'))
      match rest.dropWhile (· != ']') with
      | ']' :: ':' :: port => do
          let port ← readPort port
          pure (groups address scope port)
      | _ => none
  | _ => do
      let address ← Ipv4.read? (characters.takeWhile (· != ':'))
      match characters.dropWhile (· != ':') with
      | _ :: port => do
          let port ← readPort port
          pure (octets address port)
      | [] => none

/-- Read a socket address. -/
def read?
    (text : String) : Option SocketAddress :=
  readCharacters text.toList

/-- The text of a socket address. -/
def write : SocketAddress → String
  | octets address port => address.write ++ ":" ++ natText port
  | groups address scope port =>
      "[" ++ address.writeWithOctets ++ (if scope = 0 then "" else "%" ++ natText scope) ++
        "]:" ++ natText port

end SocketAddress
end Net
end FleetDashboard
