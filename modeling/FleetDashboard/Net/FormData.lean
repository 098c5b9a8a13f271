import FleetDashboard.Net.Percent

/-!
# Form data

Pairs of a name and a value, joined by ampersands; a blank is a plus sign and
other bytes are percent escapes.  Reading accepts any text: an empty piece is no
pair, a piece without an equals sign has an empty value, and bytes that are not
UTF-8 become replacement characters.
-/

namespace FleetDashboard
namespace Net
namespace FormData

open Text

/-- The pieces between occurrences of a mark. -/
def pieces
    (mark : Char) : List Char → List (List Char)
  | [] => [[]]
  | character :: rest =>
      if character = mark then [] :: pieces mark rest
      else
        match pieces mark rest with
        | [] => [[character]]
        | piece :: others => (character :: piece) :: others

/-- A plus sign stands for a blank. -/
def blankOfPlus
    (character : Char) : Char :=
  if character = '+' then ' ' else character

/-- The text of a written name or value. -/
def decodeText
    (written : List Char) : String :=
  String.ofList
    (Utf8.decodeForgiving (Percent.decode (Utf8.encode (written.map blankOfPlus))))

/-- The pair that a piece denotes. -/
def decodePair
    (piece : List Char) : String × String :=
  (decodeText (piece.takeWhile (· != '=')),
    decodeText ((piece.dropWhile (· != '=')).drop 1))

/-- The pairs that a text denotes, in order. -/
def decode
    (written : List Char) : List (String × String) :=
  ((pieces '&' written).filter fun piece => !piece.isEmpty).map decodePair

/-- A character that stands for itself in form data. -/
def isPlain
    (character : Char) : Bool :=
  character.isAlphanum || character == '*' || character == '-' || character == '.' ||
    character == '_'

/-- The written form of a name or value. -/
def encodeText
    (text : String) : List Char :=
  text.toList.flatMap fun character =>
    if character = ' ' then ['+'] else Percent.encode isPlain [character]

/-- The written form of a pair. -/
def encodePair
    (pair : String × String) : List Char :=
  encodeText pair.1 ++ '=' :: encodeText pair.2

/-- The written form of pairs. -/
def encode : List (String × String) → List Char
  | [] => []
  | [pair] => encodePair pair
  | pair :: rest => encodePair pair ++ '&' :: encode rest

end FormData
end Net
end FleetDashboard
