import FleetDashboard.Net.Ip
import FleetDashboard.Net.Percent
import FleetDashboard.Net.Punycode
import FleetDashboard.Text.Blank

/-!
# Hosts of web addresses

A host is a domain name in ASCII or an internet address.  Names are brought to
one form: escapes are read, letters are lower case, labels outside ASCII become
Punycode.  A name whose last label is a number must be an address.
-/

namespace FleetDashboard
namespace Net

open Text

/-- Why a text is not a web address. -/
inductive UrlFault where
  | noScheme
  | opaqueBase
  | emptyHost
  | domainName
  | hostCharacter
  | ipv4
  | ipv6
  | port
  deriving DecidableEq, Repr

namespace UrlFault

/-- The wording of a fault. -/
def message : UrlFault → String
  | noScheme => "relative URL without a base"
  | opaqueBase => "relative URL with a cannot-be-a-base base"
  | emptyHost => "empty host"
  | domainName => "invalid international domain name"
  | hostCharacter => "invalid domain character"
  | ipv4 => "invalid IPv4 address"
  | ipv6 => "invalid IPv6 address"
  | port => "invalid port number"

end UrlFault

/-- The host of a web address. -/
inductive Host where
  | empty
  | name
      (text : String)
  | ipv4
      (address : Ipv4)
  | ipv6
      (address : Ipv6)
  deriving DecidableEq, Repr

namespace Host

/-- The text of a host. -/
def write : Host → String
  | empty => ""
  | name text => text
  | ipv4 address => address.write
  | ipv6 address => "[" ++ address.write ++ "]"

/-- Characters that have no place in a name. -/
def isForbidden
    (character : Char) : Bool :=
  character.toNat ≤ 0x20 || character.toNat == 0x7F ||
    "%#/:<>?@[\\]^|".toList.contains character

/-- Characters outside ASCII that no name may hold: blanks, controls, private
ones and the one that stands in for a flaw. -/
def isUnassignable
    (character : Char) : Bool :=
  let code := character.toNat
  (0x80 ≤ code && isBlank character) || (0x80 ≤ code && code < 0xA0) ||
    (0xE000 ≤ code && code ≤ 0xF8FF) || (0xFFF9 ≤ code && code ≤ 0xFFFF) ||
    (0xE0000 ≤ code)

/-- Characters that a name drops: soft hyphens and marks without width. -/
def isDropped
    (character : Char) : Bool :=
  [0xAD, 0x200B, 0x2060, 0xFEFF].contains character.toNat

/-- The lower-case form of a letter of the Latin, Greek or Cyrillic script, the
plain form of a wide ASCII character, and the point for an ideographic one. -/
def mapped
    (character : Char) : Char :=
  let code := character.toNat
  if code < 0x80 then character.toLower
  else if (0xC0 ≤ code && code ≤ 0xDE && code != 0xD7) || (0x391 ≤ code && code ≤ 0x3A9) ||
      (0x410 ≤ code && code ≤ 0x42F) then Char.ofNat (code + 32)
  else if 0x400 ≤ code && code ≤ 0x40F then Char.ofNat (code + 80)
  else if 0x100 ≤ code && code ≤ 0x12F && code % 2 == 0 then Char.ofNat (code + 1)
  else if 0xFF01 ≤ code && code ≤ 0xFF5E then (Char.ofNat (code - 0xFEE0)).toLower
  else if code == 0x3002 || code == 0xFF0E || code == 0xFF61 then '.'
  else character

/-- Characters that are already in the form that names are brought to. -/
def isSettled
    (character : Char) : Bool :=
  mapped character == character && !isDropped character && !isUnassignable character

/-- The ASCII form of a label.  A label with the Punycode prefix must stand for a
settled text that needs the prefix. -/
def asciiLabel
    (label : List Char) : Option (List Char) :=
  match label with
  | 'x' :: 'n' :: '-' :: '-' :: code =>
      match Punycode.decode? code with
      | some text =>
          if label.all (·.toNat < 128) && text.any (128 ≤ ·.toNat) && text.all isSettled then
            some label
          else none
      | none => none
  | _ =>
      if label.all (·.toNat < 128) then some label
      else some ('x' :: 'n' :: '-' :: '-' :: Punycode.encode label)

/-- The ASCII form of a name. -/
def asciiName
    (characters : List Char) : Option (List Char) :=
  if characters.any isUnassignable then none
  else
    let characters := (characters.filter fun character => !isDropped character).map mapped
    if characters.any isForbidden then none
    else
      ((FormData.pieces '.' characters).mapM asciiLabel).map fun labels =>
        ['.'].intercalate labels

/-- An address in brackets, whose opening one has been read. -/
def readBrackets
    (characters : List Char) : Except UrlFault Host :=
  if characters.getLast? = some ']' then
    match Ipv6.read? characters.dropLast with
    | some address => .ok (ipv6 address)
    | none => .error .ipv6
  else .error .ipv6

/-- The host of an address whose scheme is known to every browser. -/
def readKnown
    (characters : List Char) : Except UrlFault Host :=
  match characters with
  | [] => .error .emptyHost
  | '[' :: rest => readBrackets rest
  | _ =>
      match (Utf8.decode (Percent.decode (Utf8.encode characters))).bind asciiName with
      | none => .error .domainName
      | some [] => .error .emptyHost
      | some domain =>
          if Ipv4.endsInNumber domain then
            match Ipv4.readLenient domain with
            | some address => .ok (ipv4 address)
            | none => .error .ipv4
          else .ok (name (String.ofList domain))

/-- Characters that have no place in the host of another address. -/
def isForbiddenElsewhere
    (character : Char) : Bool :=
  "\x00\t\n\r #/:<>?@[\\]^|".toList.contains character

/-- The host of an address with any other scheme. -/
def readOther
    (characters : List Char) : Except UrlFault Host :=
  match characters with
  | [] => .ok empty
  | '[' :: rest => readBrackets rest
  | _ =>
      if characters.any isForbiddenElsewhere then .error .hostCharacter
      else
        .ok (name (String.ofList
          (Percent.encode (fun character => 0x20 ≤ character.toNat && character.toNat < 0x7F)
            characters)))

end Host
end Net
end FleetDashboard
