/-!
# Blank characters

White space in the sense of the Unicode property `White_Space`, and the removal
of it from both ends of a text.  Every setting, label and metric value is read
after this trimming.
-/

namespace FleetDashboard
namespace Text

/-- The Unicode property `White_Space`. -/
def isBlank
    (character : Char) : Bool :=
  let code := character.toNat
  (0x09 ≤ code && code ≤ 0x0D) || code == 0x20 || code == 0x85 ||
    code == 0xA0 || code == 0x1680 || (0x2000 ≤ code && code ≤ 0x200A) ||
    code == 0x2028 || code == 0x2029 || code == 0x202F || code == 0x205F ||
    code == 0x3000

/-- Drop the blanks at the front. -/
def trimFront
    (characters : List Char) : List Char :=
  characters.dropWhile isBlank

/-- Drop the blanks at both ends. -/
def trimBoth
    (characters : List Char) : List Char :=
  (trimFront (trimFront characters).reverse).reverse

/-- A text without the blanks at its ends. -/
def trim
    (text : String) : String :=
  String.ofList (trimBoth text.toList)

/-- A text that holds nothing but blanks. -/
def isBlankText
    (text : String) : Bool :=
  text.toList.all isBlank

theorem trimFront_of_not_blank
    {first : Char}
    {rest : List Char}
    (notBlank : isBlank first = false) :
    trimFront (first :: rest) = first :: rest := by
  simp [trimFront, notBlank]

end Text
end FleetDashboard
