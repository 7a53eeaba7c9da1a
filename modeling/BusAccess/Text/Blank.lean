/-!
# Blank characters

A character is blank when it has the `White_Space` property of Unicode: the six ASCII separators
from tab to carriage return and space, and nineteen more outside ASCII.  Settings that hold blank
characters only count as absent, and names are compared without the blanks around them.
-/

set_option autoImplicit false

namespace BusAccess.Text

/-- The ranges of code points with the `White_Space` property, both ends included. -/
def blankRanges : List (Nat × Nat) :=
  [(0x9, 0xd), (0x20, 0x20), (0x85, 0x85), (0xa0, 0xa0), (0x1680, 0x1680), (0x2000, 0x200a),
    (0x2028, 0x2029), (0x202f, 0x202f), (0x205f, 0x205f), (0x3000, 0x3000)]

/-- Whether some range of a table holds the code point `n`. -/
def inRanges (ranges : List (Nat × Nat)) (n : Nat) : Bool :=
  ranges.any fun r ↦ r.1 ≤ n && n ≤ r.2

/-- Whether a character is white space in the sense of Unicode. -/
def isBlank (c : Char) : Bool := inRanges blankRanges c.toNat

/-- The characters without the blanks at either end. -/
def trimChars (cs : List Char) : List Char :=
  ((cs.dropWhile isBlank).reverse.dropWhile isBlank).reverse

/-- The text without the blanks at either end. -/
def trim (s : String) : String := String.ofList (trimChars s.toList)

/-- Whether a text holds blanks only; the empty text does. -/
def allBlank (s : String) : Bool := s.toList.all isBlank

end BusAccess.Text
