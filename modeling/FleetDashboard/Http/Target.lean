import FleetDashboard.Text.Utf8

/-!
# Request targets

The target of a request line: a path with an optional query, a whole address, a
bare authority or an asterisk.  Only the path and the query matter to a server;
a target that is none of these is refused before any routing.
-/

namespace FleetDashboard
namespace Http

/-- The path and the query of a request. -/
structure Target where
  path : String
  query : String
  deriving DecidableEq, Repr

namespace Target

/-- Longest target, in bytes. -/
def longest : Nat := 65534

/-- A character of which the code lies between two bounds. -/
def within
    (least greatest : Char)
    (character : Char) : Bool :=
  least ≤ character && character ≤ greatest

/-- A character that may stand in a query. -/
def isQueryCharacter
    (character : Char) : Bool :=
  character == '!' || within '$' ';' character || character == '=' || '?' ≤ character

/-- A character that may stand in a path. -/
def isPathCharacter
    (character : Char) : Bool :=
  character == '!' || character == '"' || within '$' ';' character || character == '=' ||
    within '@' '_' character || within 'a' '\x7d' character || '~' ≤ character

/-- Read a path and a query up to a fragment. -/
def readPathAndQuery
    (characters : List Char) : Option Target :=
  let written := characters.takeWhile (· != '#')
  let path := written.takeWhile (· != '?')
  let query := (written.dropWhile (· != '?')).drop 1
  if path.all isPathCharacter && query.all isQueryCharacter then
    some ⟨if path.isEmpty then "/" else String.ofList path, String.ofList query⟩
  else none

/-- A character that ends an authority. -/
def endsAuthority
    (character : Char) : Bool :=
  character == '/' || character == '?' || character == '#'

/-- A character that may stand in an authority.  A percent sign may stand only
in front of an at sign or in brackets. -/
def isAuthorityCharacter
    (character : Char) : Bool :=
  character.isAlphanum || "!$&'()*+,-.:;=@[]_~%".toList.contains character

/-- What has been seen of an authority.  Colons and percent signs in front of an
at sign or inside brackets do not count. -/
structure AuthorityScan where
  colons : Nat
  opened : Bool
  closed : Bool
  percent : Bool
  atEnd : Bool
  deriving DecidableEq, Repr

namespace AuthorityScan

/-- Nothing has been seen. -/
def blank : AuthorityScan :=
  ⟨0, false, false, false, false⟩

/-- Most colons in a row of groups. -/
def mostColons : Nat := 8

/-- See one more character. -/
def step
    (scan : AuthorityScan)
    (character : Char) : Option AuthorityScan :=
  let scan := { scan with atEnd := false }
  match character with
  | ':' => if mostColons ≤ scan.colons then none else some { scan with colons := scan.colons + 1 }
  | '[' => if scan.percent || scan.opened then none else some { scan with opened := true }
  | ']' =>
      if !scan.opened || scan.closed then none
      else some { scan with closed := true, colons := 0, percent := false }
  | '@' => some { scan with colons := 0, percent := false, atEnd := true }
  | '%' => some { scan with percent := true }
  | other => if isAuthorityCharacter other then some scan else none

/-- The whole authority makes sense. -/
def isComplete
    (scan : AuthorityScan) : Bool :=
  scan.opened == scan.closed && scan.colons ≤ 1 && !scan.atEnd && !scan.percent

end AuthorityScan

/-- Split an authority off the front. -/
def splitAuthority
    (characters : List Char) : Option (List Char × List Char) :=
  let authority := characters.takeWhile fun character => !endsAuthority character
  match authority.foldlM AuthorityScan.step AuthorityScan.blank with
  | some scan =>
      if scan.isComplete then some (authority, characters.drop authority.length) else none
  | none => none

/-- A character that may stand in a scheme. -/
def isSchemeCharacter
    (character : Char) : Bool :=
  character.isAlphanum || "+-.~".toList.contains character

/-- Longest scheme. -/
def longestScheme : Nat := 64

/-- What follows the scheme of a whole address. -/
inductive SchemeSplit where
  | absent
  | tooLong
  | present
      (rest : List Char)
  deriving DecidableEq, Repr

/-- Split a scheme off the front. -/
def splitScheme
    (characters : List Char) : SchemeSplit :=
  let scheme := characters.takeWhile isSchemeCharacter
  match characters.drop scheme.length with
  | ':' :: '/' :: '/' :: rest =>
      if characters.length ≤ 3 then .absent
      else if longestScheme < scheme.length then .tooLong
      else .present rest
  | _ => .absent

/-- Read a whole address or a bare authority. -/
def readAddress
    (characters : List Char) : Option Target :=
  match splitScheme characters with
  | .tooLong => none
  | .present rest =>
      match splitAuthority rest with
      | some (authority, rest) => if authority.isEmpty then none else readPathAndQuery rest
      | none => none
  | .absent =>
      match splitAuthority characters with
      | some (authority, []) => if authority.isEmpty then none else some ⟨"", ""⟩
      | _ => none

/-- Read a target. -/
def readCharacters
    (characters : List Char) : Option Target :=
  if longest < (Text.Utf8.encode characters).length then none
  else
    match characters with
    | [] => none
    | ['*'] => some ⟨"*", ""⟩
    | '/' :: _ => readPathAndQuery characters
    | _ => readAddress characters

/-- Read a target. -/
def read?
    (text : String) : Option Target :=
  readCharacters text.toList

end Target
end Http
end FleetDashboard
