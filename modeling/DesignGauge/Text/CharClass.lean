/-!
# Character classes

A class of characters is a sorted list of inclusive code point ranges. This module holds the
type, membership, and the small class of blanks; the long classes have table modules of their own.
-/

namespace DesignGauge.Text

/-- A class of characters: inclusive ranges of code points, in increasing order. -/
abbrev CharClass := List (Nat × Nat)

/-- Membership of a code point in a class. -/
def CharClass.holds (ranges : CharClass) (code : Nat) : Bool :=
  ranges.any fun range => range.1 ≤ code && code ≤ range.2

/-- Membership of a character in a class. -/
def CharClass.has (ranges : CharClass) (c : Char) : Bool :=
  CharClass.holds ranges c.toNat

/-- Blanks: separators of words, the line and paragraph separators, and the four information
separators `0x1C` to `0x1F`. -/
def blanks : List (Nat × Nat) := [
  (0x9, 0xD), (0x1C, 0x20), (0x85, 0x85), (0xA0, 0xA0), (0x1680, 0x1680), (0x2000, 0x200A),
  (0x2028, 0x2029), (0x202F, 0x202F), (0x205F, 0x205F), (0x3000, 0x3000)]

/-- A blank separates words and is stripped from the ends of a text. -/
def isBlank (c : Char) : Bool :=
  CharClass.has blanks c

/-- The white space of the Unicode property, which leaves out the information separators. -/
def isWhiteSpace (c : Char) : Bool :=
  isBlank c && !(0x1C ≤ c.toNat && c.toNat ≤ 0x1F)

/-- A decimal digit of the basic range. -/
def isAsciiDigit (c : Char) : Bool :=
  '0' ≤ c && c ≤ '9'

/-- A letter of the basic range. -/
def isAsciiLetter (c : Char) : Bool :=
  ('a' ≤ c && c ≤ 'z') || ('A' ≤ c && c ≤ 'Z')

end DesignGauge.Text
