/-!
# Lone surrogates

Half of a surrogate pair has a code point and is no character. A text that is put together from
code points can hold such a half; it is kept as two characters, a mark and a private character
`0x100000` above the half. The mark is the last code point, which is assigned to nothing; where a
text holds it for itself, it is kept twice. Every other character is kept as it is.

`spell` gives the characters that are kept for a code point, `codes` the code points of a text.
-/

namespace DesignGauge.Text

/-- Code points of halves of pairs. -/
def isSurrogate (code : Nat) : Bool := 0xD800 ≤ code && code ≤ 0xDFFF

/-- The character in front of the one that is kept for half of a pair. -/
def halfMark : Char := Char.ofNat 0x10FFFF

/-- The distance from the half of a pair to the character that is kept for it. -/
def surrogateShift : Nat := 0x100000

/-- The characters that are kept for a character. -/
def marked (c : Char) : List Char := if c == halfMark then [c, c] else [c]

/-- The characters that are kept for a code point. -/
def spell (code : Nat) : List Char :=
  if isSurrogate code then [halfMark, Char.ofNat (code + surrogateShift)]
  else marked (Char.ofNat code)

/-- The code point of the character behind a mark. -/
def codeBehind (c : Char) : Nat :=
  if c == halfMark then c.toNat else c.toNat - surrogateShift

/-- The code points of a text. -/
def codes : List Char → List Nat
  | [] => []
  | [c] => [c.toNat]
  | c :: d :: rest =>
    if c == halfMark then codeBehind d :: codes rest else c.toNat :: codes (d :: rest)

/-- Nothing in a text stands for half of a pair: every mark is there twice. -/
def isWholeList : List Char → Bool
  | [] => true
  | [c] => c != halfMark
  | c :: d :: rest =>
    if c == halfMark then d == halfMark && isWholeList rest else isWholeList (d :: rest)

/-- A text holds no half of a pair. -/
def isWhole (s : String) : Bool := isWholeList s.toList

end DesignGauge.Text
