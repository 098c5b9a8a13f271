/-!
# Punycode

A text of any characters as ASCII: first the ASCII characters as they are, then
the others as the distances between them in order of code, each distance in a
numeral system whose thresholds adapt to the distances met so far.
-/

namespace FleetDashboard
namespace Net
namespace Punycode

/-- Base of the numerals. -/
def base : Nat := 36

/-- Bias before the first distance. -/
def firstBias : Nat := 72

/-- Least code outside ASCII. -/
def firstCode : Nat := 128

/-- Scale a distance down until it fits the thresholds, counting the places. -/
def scaleDown : Nat → Nat → Nat → Nat × Nat
  | 0, distance, places => (distance, places)
  | fuel + 1, distance, places =>
      if 455 < distance then scaleDown fuel (distance / 35) (places + base)
      else (distance, places)

/-- The bias after a distance, given the count of characters placed so far. -/
def adapt
    (isFirst : Bool)
    (distance count : Nat) : Nat :=
  let damped := if isFirst then distance / 700 else distance / 2
  let spread := damped + damped / count
  let (rest, places) := scaleDown spread spread 0
  places + 36 * rest / (rest + 38)

/-- The threshold of a place under a bias. -/
def threshold
    (place bias : Nat) : Nat :=
  if place ≤ bias then 1 else if bias + 26 ≤ place then 26 else place - bias

/-- The character of a digit. -/
def digitCharacter
    (digit : Nat) : Char :=
  if digit < 26 then Char.ofNat (97 + digit) else Char.ofNat (22 + digit)

/-- The digit of a lower-case character. -/
def digitValue?
    (character : Char) : Option Nat :=
  if 'a' ≤ character ∧ character ≤ 'z' then some (character.toNat - 97)
  else if '0' ≤ character ∧ character ≤ '9' then some (character.toNat - 22)
  else none

/-- The numeral of a distance, from a place on. -/
def writeDistance : Nat → Nat → Nat → Nat → List Char
  | 0, _, _, _ => []
  | fuel + 1, bias, place, distance =>
      let least := threshold place bias
      if distance < least then [digitCharacter distance]
      else
        digitCharacter (least + (distance - least) % (base - least)) ::
          writeDistance fuel bias (place + base) ((distance - least) / (base - least))

/-- The state of writing: what is written, the distance not yet written, the bias
and the count of characters placed. -/
structure Writing where
  written : List Char
  distance : Nat
  bias : Nat
  placed : Nat

/-- See one character while those of a given code are being placed. -/
def Writing.see
    (asciiCount code : Nat)
    (writing : Writing)
    (character : Char) : Writing :=
  if character.toNat < code then { writing with distance := writing.distance + 1 }
  else if character.toNat = code then
    { written :=
        writing.written ++
          writeDistance (writing.distance + 1) writing.bias base writing.distance
      distance := 0
      bias := adapt (writing.placed == asciiCount) writing.distance (writing.placed + 1)
      placed := writing.placed + 1 }
  else writing

/-- Place the characters of each code in turn. -/
def placeCodes
    (characters : List Char)
    (asciiCount : Nat) : Nat → List Nat → Writing → Writing
  | _, [], writing => writing
  | previous, code :: codes, writing =>
      let skipped :=
        { writing with
          distance := writing.distance + (code - previous) * (writing.placed + 1) }
      let placed := characters.foldl (Writing.see asciiCount code) skipped
      placeCodes characters asciiCount (code + 1) codes
        { placed with distance := placed.distance + 1 }

/-- Put a code into its place among greater ones, unless it is there. -/
def insertCode
    (code : Nat) : List Nat → List Nat
  | [] => [code]
  | first :: rest =>
      if code < first then code :: first :: rest
      else if code = first then first :: rest
      else first :: insertCode code rest

/-- The codes outside ASCII, each once, in order. -/
def foreignCodes
    (characters : List Char) : List Nat :=
  ((characters.map Char.toNat).filter (firstCode ≤ ·)).foldr insertCode []

/-- The ASCII form of a text. -/
def encode
    (characters : List Char) : List Char :=
  let ascii := characters.filter fun character => character.toNat < firstCode
  let count := ascii.length
  (if ascii.isEmpty then [] else ascii ++ ['-']) ++
    (placeCodes characters count firstCode (foreignCodes characters)
      ⟨[], 0, firstBias, count⟩).written

/-- Read one numeral on top of a position. -/
def readDistance
    (bias : Nat) : Nat → Nat → Nat → List Char → Option (Nat × List Char)
  | _, _, _, [] => none
  | place, weight, position, character :: rest => do
      let digit ← digitValue? character
      let position := position + digit * weight
      let least := threshold place bias
      if digit < least then pure (position, rest)
      else readDistance bias (place + base) (weight * (base - least)) position rest

/-- Put a character at a position. -/
def insertAt
    (character : Char) : Nat → List Char → List Char
  | position + 1, first :: rest => first :: insertAt character position rest
  | _, rest => character :: rest

/-- Place characters by their numerals. -/
def readDistances : Nat → Nat → Nat → Nat → List Char → List Char → Option (List Char)
  | _, _, _, _, placed, [] => some placed
  | 0, _, _, _, _, _ => none
  | fuel + 1, code, bias, start, placed, rest => do
      let (position, rest) ← readDistance bias base 1 start rest
      let count := placed.length + 1
      let code := code + position / count
      if 0x10FFFF < code ∨ (0xD800 ≤ code ∧ code < 0xE000) then none
      else
        readDistances fuel code (adapt (start == 0) (position - start) count)
          (position % count + 1) (insertAt (Char.ofNat code) (position % count) placed) rest

/-- The text of an ASCII form. -/
def decode?
    (characters : List Char) : Option (List Char) :=
  let backwards := characters.reverse
  let tail := (backwards.takeWhile (· != '-')).reverse
  let ascii := ((backwards.dropWhile (· != '-')).drop 1).reverse
  readDistances (tail.length + 1) firstCode firstBias 0 ascii tail

end Punycode
end Net
end FleetDashboard
