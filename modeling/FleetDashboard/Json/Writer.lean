import FleetDashboard.Json.Basic

/-!
# Writing JSON

The compact text of a value.  Members keep their order; a string escapes quotes,
backslashes and control characters and nothing else.
-/

namespace FleetDashboard
namespace Json

open Text

/-- A hexadecimal digit in lower case. -/
def hexDigit
    (value : Nat) : Char :=
  if value < 10 then Char.ofNat (48 + value) else Char.ofNat (87 + value)

/-- A character as it stands in a string literal. -/
def escape
    (character : Char) : List Char :=
  match character with
  | '"' => ['\\', '"']
  | '\\' => ['\\', '\\']
  | '\x08' => ['\\', 'b']
  | '\x0c' => ['\\', 'f']
  | '\n' => ['\\', 'n']
  | '\r' => ['\\', 'r']
  | '\t' => ['\\', 't']
  | other =>
      if other.toNat < 0x20 then
        ['\\', 'u', '0', '0', hexDigit (other.toNat / 16), hexDigit (other.toNat % 16)]
      else [other]

/-- The string literal of a text. -/
def quote
    (text : List Char) : List Char :=
  '"' :: (text.flatMap escape ++ ['"'])

/-- The literal of a string or key.  One that denotes no text is written as the
half of a surrogate pair that it names. -/
def quoteOptional : Option String → List Char
  | some text => quote text.toList
  | none => "\"\\ud800\"".toList

/-- The text of a number literal. -/
def writeNumber
    (number : JsonNumber) : List Char :=
  (if number.negative then ['-'] else []) ++ number.whole ++
    (if number.fraction.isEmpty then [] else '.' :: number.fraction) ++
    match number.exponent with
    | none => []
    | some exponent => 'e' :: (intText exponent).toList

mutual

/-- The characters of a value. -/
def writeCharacters : Json → List Char
  | .null => ['n', 'u', 'l', 'l']
  | .bool true => ['t', 'r', 'u', 'e']
  | .bool false => ['f', 'a', 'l', 's', 'e']
  | .number literal => writeNumber literal
  | .string text => quoteOptional text
  | .array items => '[' :: writeItems items
  | .object members => '\x7b' :: writeMembers members

/-- The items of an array and its closing bracket. -/
def writeItems : List Json → List Char
  | [] => [']']
  | [item] => writeCharacters item ++ [']']
  | item :: rest => writeCharacters item ++ ',' :: writeItems rest

/-- The members of an object and its closing brace. -/
def writeMembers : List (Option String × Json) → List Char
  | [] => ['\x7d']
  | [(key, value)] => quoteOptional key ++ ':' :: (writeCharacters value ++ ['\x7d'])
  | (key, value) :: rest =>
      quoteOptional key ++ ':' :: (writeCharacters value ++ ',' :: writeMembers rest)

end

/-- The text of a value. -/
def write
    (value : Json) : String :=
  String.ofList (writeCharacters value)

end Json
end FleetDashboard
