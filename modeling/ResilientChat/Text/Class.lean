/-!
Classes of characters given by ranges of code points, and the class of white
space.
-/

namespace ResilientChat.Text

/-- Code points, from the first number of a pair to the second one inclusive. -/
abbrev Ranges := List (Nat × Nat)

def Ranges.holds (ranges : Ranges) (c : Char) : Bool :=
  ranges.any fun range => range.1 ≤ c.toNat && c.toNat ≤ range.2

def blankRanges : Ranges :=
  [(0x9, 0xD), (0x20, 0x20), (0x85, 0x85), (0xA0, 0xA0), (0x1680, 0x1680), (0x2000, 0x200A),
   (0x2028, 0x2029), (0x202F, 0x202F), (0x205F, 0x205F), (0x3000, 0x3000)]

def isBlank (c : Char) : Bool := blankRanges.holds c

/-- A blank within a line of ASCII: a space or a tab. -/
def isGap (c : Char) : Bool := c = ' ' || c = '\t'

end ResilientChat.Text
