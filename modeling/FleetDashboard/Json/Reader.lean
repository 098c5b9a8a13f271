import FleetDashboard.Json.Basic

/-!
# Reading JSON

The grammar of JSON without extensions: no comments, no trailing commas, no
leading zeros, no control characters in strings, nothing but blanks behind the
value.
-/

namespace FleetDashboard
namespace Json

open Text

/-- White space between tokens. -/
def isSpace
    (character : Char) : Bool :=
  character == ' ' || character == '\t' || character == '\n' || character == '\r'

/-- Drop the white space in front. -/
def skipSpace
    (characters : List Char) : List Char :=
  characters.dropWhile isSpace

/-- The value of a hexadecimal digit. -/
def hexDigit?
    (character : Char) : Option Nat :=
  if '0' ≤ character ∧ character ≤ '9' then some (character.toNat - 48)
  else if 'a' ≤ character ∧ character ≤ 'f' then some (character.toNat - 87)
  else if 'A' ≤ character ∧ character ≤ 'F' then some (character.toNat - 55)
  else none

/-- The value of four hexadecimal digits. -/
def hexQuad?
    (first second third fourth : Char) : Option Nat := do
  let first ← hexDigit? first
  let second ← hexDigit? second
  let third ← hexDigit? third
  let fourth ← hexDigit? fourth
  pure (((first * 16 + second) * 16 + third) * 16 + fourth)

/-- The character of a one-letter escape. -/
def escapeCharacter?
    (letter : Char) : Option Char :=
  match letter with
  | '"' => some '"'
  | '\\' => some '\\'
  | '/' => some '/'
  | 'b' => some '\x08'
  | 'f' => some '\x0c'
  | 'n' => some '\n'
  | 'r' => some '\r'
  | 't' => some '\t'
  | _ => none

/-- One element of a string literal: a character, or a code unit written with a
hexadecimal escape. -/
inductive Piece where
  | character
      (character : Char)
  | codeUnit
      (code : Nat)
  deriving DecidableEq, Repr

/-- The pieces of a string literal whose opening quote has been read. -/
def readPieces : List Char → Option (List Piece × List Char)
  | [] => none
  | '"' :: rest => some ([], rest)
  | '\\' :: 'u' :: first :: second :: third :: fourth :: rest => do
      let code ← hexQuad? first second third fourth
      let (pieces, rest) ← readPieces rest
      pure (.codeUnit code :: pieces, rest)
  | '\\' :: letter :: rest => do
      let escaped ← escapeCharacter? letter
      let (pieces, rest) ← readPieces rest
      pure (.character escaped :: pieces, rest)
  | character :: rest =>
      if character.toNat < 0x20 ∨ character = '\\' then none
      else do
        let (pieces, rest) ← readPieces rest
        pure (.character character :: pieces, rest)

/-- The first half of a surrogate pair. -/
def isHighHalf
    (code : Nat) : Bool :=
  0xD800 ≤ code && code < 0xDC00

/-- The second half of a surrogate pair. -/
def isLowHalf
    (code : Nat) : Bool :=
  0xDC00 ≤ code && code < 0xE000

/-- The characters that pieces denote, if no half of a pair stands alone. -/
def joinPieces : List Piece → Option (List Char)
  | [] => some []
  | .character character :: rest => (joinPieces rest).map (character :: ·)
  | .codeUnit high :: .codeUnit low :: rest =>
      if isHighHalf high && isLowHalf low then
        (joinPieces rest).map
          (Char.ofNat (0x10000 + (high - 0xD800) * 0x400 + (low - 0xDC00)) :: ·)
      else if isHighHalf high || isLowHalf high then none
      else (joinPieces (.codeUnit low :: rest)).map (Char.ofNat high :: ·)
  | .codeUnit code :: rest =>
      if isHighHalf code || isLowHalf code then none
      else (joinPieces rest).map (Char.ofNat code :: ·)

/-- The text of a string literal whose opening quote has been read. -/
def readString
    (characters : List Char) : Option (Option String × List Char) :=
  (readPieces characters).map fun (pieces, rest) =>
    ((joinPieces pieces).map String.ofList, rest)

/-- The digits before the point: a lone zero or a run without leading zero. -/
def readWhole : List Char → Option (List Char × List Char)
  | '0' :: rest =>
      match rest with
      | next :: _ => if isDigit next then none else some (['0'], rest)
      | [] => some (['0'], [])
  | characters =>
      let digits := characters.takeWhile isDigit
      if digits.isEmpty then none
      else some (digits, characters.dropWhile isDigit)

/-- The digits behind a point, if there is one. -/
def readPlaces : List Char → Option (List Char × List Char)
  | '.' :: rest =>
      let digits := rest.takeWhile isDigit
      if digits.isEmpty then none else some (digits, rest.dropWhile isDigit)
  | rest => some ([], rest)

/-- The power of ten, if there is one. -/
def readPower : List Char → Option (Option Int × List Char)
  | [] => some (none, [])
  | mark :: rest =>
      if mark = 'e' ∨ mark = 'E' then
        let (negative, characters) := Number.splitSign rest
        let digits := characters.takeWhile isDigit
        if digits.isEmpty then none
        else
          let magnitude : Int := Number.digitsValue 0 digits
          some (some (if negative then -magnitude else magnitude),
            characters.dropWhile isDigit)
      else some (none, mark :: rest)

/-- A number literal. -/
def readNumber
    (characters : List Char) : Option (JsonNumber × List Char) := do
  let (negative, characters) :=
    match characters with
    | '-' :: rest => (true, rest)
    | rest => (false, rest)
  let (whole, rest) ← readWhole characters
  let (fraction, rest) ← readPlaces rest
  let (exponent, rest) ← readPower rest
  pure (⟨negative, whole, fraction, exponent⟩, rest)

mutual

/-- A value at the front of the characters. -/
def readValue : Nat → List Char → Option (Json × List Char)
  | 0, _ => none
  | fuel + 1, characters =>
      match skipSpace characters with
      | 'n' :: 'u' :: 'l' :: 'l' :: rest => some (.null, rest)
      | 't' :: 'r' :: 'u' :: 'e' :: rest => some (.bool true, rest)
      | 'f' :: 'a' :: 'l' :: 's' :: 'e' :: rest => some (.bool false, rest)
      | '"' :: rest => (readString rest).map fun (text, rest) => (.string text, rest)
      | '[' :: rest =>
          match skipSpace rest with
          | ']' :: rest => some (.array [], rest)
          | rest => (readItems fuel rest).map fun (items, rest) => (.array items, rest)
      | '\x7b' :: rest =>
          match skipSpace rest with
          | '\x7d' :: rest => some (.object [], rest)
          | rest =>
              (readMembers fuel rest).map fun (members, rest) => (.object members, rest)
      | rest => (readNumber rest).map fun (literal, rest) => (.number literal, rest)

/-- The items of a non-empty array up to its closing bracket. -/
def readItems : Nat → List Char → Option (List Json × List Char)
  | 0, _ => none
  | fuel + 1, characters => do
      let (item, rest) ← readValue fuel characters
      match skipSpace rest with
      | ',' :: rest => do
          let (items, rest) ← readItems fuel rest
          pure (item :: items, rest)
      | ']' :: rest => pure ([item], rest)
      | _ => none

/-- The members of a non-empty object up to its closing brace. -/
def readMembers : Nat → List Char → Option (List (Option String × Json) × List Char)
  | 0, _ => none
  | fuel + 1, characters =>
      match skipSpace characters with
      | '"' :: rest => do
          let (key, rest) ← readString rest
          match skipSpace rest with
          | ':' :: rest => do
              let (value, rest) ← readValue fuel rest
              match skipSpace rest with
              | ',' :: rest => do
                  let (members, rest) ← readMembers fuel rest
                  pure ((key, value) :: members, rest)
              | '\x7d' :: rest => pure ([(key, value)], rest)
              | _ => none
          | _ => none
      | _ => none

end

/-- The value that a whole document denotes. -/
def readCharacters
    (characters : List Char) : Option Json :=
  match readValue (2 * characters.length + 1) characters with
  | some (value, rest) => if (skipSpace rest).isEmpty then some value else none
  | none => none

/-- The value that a whole document denotes. -/
def read?
    (document : String) : Option Json :=
  readCharacters document.toList

end Json
end FleetDashboard
