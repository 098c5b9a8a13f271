import FleetDashboard.Net.Host

/-!
# Base addresses

A web address that other addresses are relative to: scheme, host, port and path.
Its user information, query and fragment do not reach the addresses relative to
it and are read only to be checked.
-/

namespace FleetDashboard
namespace Net

open Text

/-- The path of a base address. -/
inductive BasePath where
  /-- Segments of which each follows a slash. -/
  | segments
      (list : List String)
  /-- A path without structure, which nothing can be relative to. -/
  | unstructured
  deriving DecidableEq, Repr

/-- A base address.  `host` is absent when no slashes introduce one. -/
structure BaseUrl where
  scheme : String
  host : Option Host
  port : Option Nat
  path : BasePath
  deriving DecidableEq, Repr

namespace BaseUrl

/-- Schemes whose addresses always have a host and a path. -/
def isKnown
    (scheme : String) : Bool :=
  ["http", "https", "ws", "wss", "ftp"].contains scheme

/-- The port that a scheme implies. -/
def impliedPort
    (scheme : String) : Option Nat :=
  match scheme with
  | "http" => some 80
  | "ws" => some 80
  | "https" => some 443
  | "wss" => some 443
  | "ftp" => some 21
  | _ => none

/-- Drop controls and blanks at both ends, and line ends and tabs everywhere. -/
def cleaned
    (characters : List Char) : List Char :=
  let isEdge := fun (character : Char) => character.toNat ≤ 0x20
  let trimmed := ((characters.dropWhile isEdge).reverse.dropWhile isEdge).reverse
  let lineEnds := ['\t', '\n', '\r']
  trimmed.filter fun character => !lineEnds.contains character

/-- Split a scheme off the front. -/
def splitScheme
    (characters : List Char) : Option (String × List Char) :=
  let scheme := characters.takeWhile fun character =>
    character.isAlphanum || ['+', '-', '.'].contains character
  match characters.drop scheme.length with
  | ':' :: rest =>
      if (scheme.head?.map Char.isAlpha).getD false then
        some (String.ofList (scheme.map Char.toLower), rest)
      else none
  | _ => none

/-- A slash, or a backslash in an address of a known scheme. -/
def isSlash
    (known : Bool)
    (character : Char) : Bool :=
  character == '/' || (known && character == '\\')

/-- A character that ends an authority. -/
def endsAuthority
    (known : Bool)
    (character : Char) : Bool :=
  isSlash known character || character == '?' || character == '#'

/-- The characters behind the last at sign, and those in front of it. -/
def splitUserInfo
    (authority : List Char) : Option (List Char) × List Char :=
  if authority.contains '@' then
    let backwards := authority.reverse
    (some ((backwards.dropWhile (· != '@')).drop 1).reverse,
      (backwards.takeWhile (· != '@')).reverse)
  else (none, authority)

/-- Split a host from what follows it; colons in brackets belong to the host. -/
def splitHost : Bool → List Char → List Char × List Char
  | _, [] => ([], [])
  | inBrackets, character :: rest =>
      if character = ':' ∧ !inBrackets then ([], character :: rest)
      else
        let inBrackets := if character = '[' then true
          else if character = ']' then false else inBrackets
        let (host, rest) := splitHost inBrackets rest
        (character :: host, rest)

/-- A port behind a colon.  The scheme's own port is not kept. -/
def readPort
    (scheme : String)
    (digits : List Char) : Except UrlFault (Option Nat) :=
  if digits.isEmpty then .ok none
  else if !digits.all isDigit then .error .port
  else
    match readNat 65535 digits with
    | .ok port => .ok (if impliedPort scheme = some port then none else some port)
    | .error _ => .error .port

/-- A path segment in which each byte that may not stand for itself is escaped. -/
def encodeSegment
    (piece : List Char) : String :=
  String.ofList <| Percent.encode
    (fun character =>
      0x20 < character.toNat && character.toNat < 0x7F &&
        !"\"#<>?`\x7b\x7d".toList.contains character)
    piece

/-- One or two points, which may be written as escapes. -/
def isPoints
    (count : Nat)
    (piece : List Char) : Bool :=
  let rec points : List Char → Option Nat
    | [] => some 0
    | '%' :: '2' :: 'e' :: rest => (points rest).map (· + 1)
    | '%' :: '2' :: 'E' :: rest => (points rest).map (· + 1)
    | '.' :: rest => (points rest).map (· + 1)
    | _ => none
  points piece == some count

/-- Append the pieces of a path to segments: two points drop the last segment,
one point nothing. -/
def appendPieces : List String → List (List Char) → List String
  | segments, [] => segments
  | segments, piece :: rest =>
      if isPoints 2 piece then
        appendPieces (segments.dropLast ++ (if rest.isEmpty then [""] else [])) rest
      else if isPoints 1 piece then
        appendPieces (segments ++ (if rest.isEmpty then [""] else [])) rest
      else appendPieces (segments ++ [encodeSegment piece]) rest

/-- The pieces between slashes. -/
def piecesOf
    (known : Bool)
    (characters : List Char) : List (List Char) :=
  FormData.pieces '/' (characters.map fun character =>
    if isSlash known character then '/' else character)

/-- The path at the front of the characters, up to a query or fragment. -/
def readPath
    (known : Bool)
    (characters : List Char) : BasePath :=
  let path := characters.takeWhile fun character => character != '?' && character != '#'
  match path with
  | [] => .segments (if known then [""] else [])
  | first :: rest =>
      .segments (appendPieces [] (piecesOf known (if isSlash known first then rest else path)))

/-- Read what follows two slashes. -/
def readAuthority
    (scheme : String)
    (characters : List Char) : Except UrlFault BaseUrl := do
  let known := isKnown scheme
  let authority := characters.takeWhile fun character => !endsAuthority known character
  let (userInfo, authority) := splitUserInfo authority
  let (host, behind) := splitHost false authority
  if userInfo.isSome && userInfo != some [] && userInfo != some [':'] && host.isEmpty then
    .error .emptyHost
  if userInfo = some [] && authority.isEmpty then .error .emptyHost
  let host ← if known then Host.readKnown host else Host.readOther host
  if host = .empty && !behind.isEmpty then .error .emptyHost
  let port ← readPort scheme (behind.drop 1)
  pure
    { scheme := scheme
      host := some host
      port := port
      path := readPath known
        (characters.dropWhile fun character => !endsAuthority known character) }

/-- Drop empty segments in front of others. -/
def dropEmptyFront : List String → List String
  | "" :: next :: rest => dropEmptyFront (next :: rest)
  | segments => segments

/-- Read what follows the scheme of a file. -/
def readFile
    (characters : List Char) : Except UrlFault BaseUrl := do
  let (host, rest) ←
    match characters with
    | first :: second :: rest =>
        if isSlash true first && isSlash true second then
          let name := rest.takeWhile fun character => !endsAuthority true character
          let rest := rest.drop name.length
          if name.isEmpty then .ok (Host.empty, rest)
          else
            (Host.readKnown name).map fun host =>
              (if host = .name "localhost" then .empty else host, rest)
        else .ok (.empty, characters)
    | _ => .ok (.empty, characters)
  let path :=
    match readPath true rest with
    | .segments list => .segments (dropEmptyFront list)
    | .unstructured => .unstructured
  pure { scheme := "file", host := some host, port := none, path := path }

/-- Read what follows the scheme of an address that no browser knows. -/
def readOther
    (scheme : String)
    (characters : List Char) : Except UrlFault BaseUrl :=
  match characters with
  | '/' :: '/' :: rest => readAuthority scheme rest
  | '/' :: rest =>
      .ok { scheme := scheme, host := none, port := none, path := readPath false ('/' :: rest) }
  | _ => .ok { scheme := scheme, host := none, port := none, path := .unstructured }

/-- Read a base address. -/
def read
    (text : String) : Except UrlFault BaseUrl :=
  match splitScheme (cleaned text.toList) with
  | none => .error .noScheme
  | some (scheme, rest) =>
      if scheme = "file" then readFile rest
      else if isKnown scheme then readAuthority scheme (rest.dropWhile (isSlash true))
      else readOther scheme rest

/-- The address of a plain relative path. -/
def join
    (base : BaseUrl)
    (relative : List String) : Except UrlFault BaseUrl :=
  match base.path with
  | .segments list => .ok { base with path := .segments (list.dropLast ++ relative) }
  | .unstructured => .error .opaqueBase

/-- The address names a host. -/
def hasHost
    (url : BaseUrl) : Bool :=
  match url.host with
  | some .empty => false
  | some _ => true
  | none => false

/-- The host and the port of an address. -/
def authority
    (url : BaseUrl) : String :=
  (url.host.map Host.write).getD "" ++
    match url.port with
    | some port => ":" ++ natText port
    | none => ""

/-- The text of an address. -/
def write
    (url : BaseUrl) : String :=
  url.scheme ++ ":" ++ (if url.host.isSome then "//" ++ url.authority else "") ++
    match url.path with
    | .segments list => String.join (list.map ("/" ++ ·))
    | .unstructured => ""

end BaseUrl
end Net
end FleetDashboard
