import DesignGauge.Address.LabelTable
import DesignGauge.Address.Punycode

/-!
# Labels of a host name

The parts of a host name between its dots. A label of letters from any script is written with
basic characters if it keeps the rules for such labels: it is composed, its hyphens do not look
like the mark of a written label, each character may stand where it stands, and letters from right
to left are not mixed with others.
-/

namespace DesignGauge.Label

open Text

/-! ## Composition -/

/-- The combining class of a character; 0 for all that do not combine. -/
def markClass (code : Nat) : Nat :=
  ((markClasses.find? fun (low, high, _) => low ≤ code && code ≤ high).map (·.2.2)).getD 0

/-- Takes composite characters apart, once. -/
def unfoldOnce (codes : List Nat) : List Nat :=
  codes.flatMap fun code => match composites.find? (·.1 == code) with
    | some (_, first, second) => [first, second]
    | none => [code]

/-- No character is composed more than three times over. -/
def composingDepth : Nat := 4

/-- Takes composite characters apart. -/
def unfolded (codes : List Nat) : List Nat :=
  Nat.repeat unfoldOnce composingDepth codes

/-- Puts a character after others, which are given from the last on; a mark goes in front of the
marks of greater class. -/
def placeMark (code : Nat) : List Nat → List Nat
  | [] => [code]
  | last :: before =>
    if 0 < markClass code && markClass code < markClass last then last :: placeMark code before
    else code :: last :: before

/-- Sorts neighbouring marks by their class. -/
def ordered (codes : List Nat) : List Nat :=
  (codes.foldl (fun placed code => placeMark code placed) []).reverse

/-- The character that stands for two. -/
def composite? (first second : Nat) : Option Nat :=
  (composites.find? fun (_, a, b) => a == first && b == second).map (·.1)

/-- Joins a character with what follows, where no mark of the same or a greater class stands in
between; the marks passed so far are given from the last on. -/
def composeAfter (base : Nat) (marks : List Nat) : List Nat → List Nat
  | [] => base :: marks.reverse
  | code :: rest =>
    let blocked := marks.head?.any fun mark => markClass code ≤ markClass mark
    match if blocked then none else composite? base code with
    | some joined => composeAfter joined marks rest
    | none =>
      if markClass code == 0 then base :: (marks.reverse ++ composeAfter code [] rest)
      else composeAfter base (code :: marks) rest

/-- The composed form of a text. -/
def composed (codes : List Nat) : List Nat :=
  match ordered (unfolded codes) with
  | [] => []
  | code :: rest => composeAfter code [] rest

/-! ## Places -/

/-- The first character that does not pass joining on is in a class. -/
def joins (letters : CharClass) (text : List Char) : Bool :=
  (text.dropWhile passesJoining.has).head?.any letters.has

/-- The two sets of digits of the Arabic script, which do not stand in one label. -/
def easternDigits : CharClass := [(0x660, 0x669)]

@[inherit_doc easternDigits]
def extendedDigits : CharClass := [(0x6F0, 0x6F9)]

/-- A character of a label may stand between what is before it, from the last on, and what is
after it. -/
def fits (label before : List Char) (c : Char) (after : List Char) : Bool :=
  validRanges.has c || match c with
    | '\u200c' => before.head?.any viramas.has
      || (joins joinsNext before && joins joinsPrevious after)
    | '\u200d' => before.head?.any viramas.has
    | '\u00b7' => before.head? == some 'l' && after.head? == some 'l'
    | '\u0375' => after.head?.any greek.has
    | '\u05f3' | '\u05f4' => before.head?.any hebrew.has
    | '\u30fb' => label.any kanaOrHan.has
    | c => (easternDigits.has c && !label.any extendedDigits.has)
      || (extendedDigits.has c && !label.any easternDigits.has)

/-- All characters of a label may stand where they stand. -/
def allFit (label before : List Char) : List Char → Bool
  | [] => true
  | c :: after => fits label before c after && allFit label (c :: before) after

/-! ## Directions -/

/-- Directions of characters. -/
inductive Direction where
  | left
  | right
  | arabicDigit
  | digit
  | mark
  | neutral
  deriving DecidableEq, Repr

/-- The direction of a character. -/
def direction (c : Char) : Direction :=
  if rightToLeft.has c then .right
  else if arabicDigits.has c then .arabicDigit
  else if commonDigits.has c then .digit
  else if followingMarks.has c then .mark
  else if neutralSigns.has c then .neutral
  else .left

/-- The directions of a label agree if none is from right to left, or if the label starts with a
letter from right to left, holds none of the other direction, ends with a letter or digit apart
from marks, and does not mix digits. -/
def directionsAgree (label : List Direction) : Bool :=
  (!label.contains .right && !label.contains .arabicDigit)
    || (label.head? == some .right && !label.contains .left
      && label.reverse.find? (· != .mark) != some .neutral
      && !(label.contains .digit && label.contains .arabicDigit))

/-! ## Labels -/

/-- The greatest number of characters in a host name. -/
def nameLimit : Nat := 254

/-- A label keeps the rules. -/
def isProper (label : List Char) : Bool :=
  let codes := label.map Char.toNat
  !label.isEmpty && label.length ≤ nameLimit
    && composed codes == codes
    && !(['-', '-'].isPrefixOf (label.drop 2))
    && label.head? != some '-' && label.getLast? != some '-'
    && !label.head?.any markRanges.has
    && allFit label [] label
    && directionsAgree (label.map direction)

/-- What a written label starts with. -/
def sign : List Char := ['x', 'n', '-', '-']

/-- A label of basic characters that keeps the rules, or that is written for one that does. -/
def isProperBasic (label : List Char) : Bool :=
  if sign.isPrefixOf label then
    let body := label.drop sign.length
    !body.isEmpty && body.getLast? != some '-' && match Punycode.decode? body with
      | some codes => codes.all (·.isValidChar) && isProper (codes.map Char.ofNat)
      | none => false
  else isProper label

/-- The greatest number of characters in a written label. -/
def labelLimit : Nat := 63

/-- A label in basic characters. -/
def basic? (label : List Char) : Option (List Char) := do
  let basic := label.all (·.toNat < 128)
  guard (if basic then isProperBasic label else isProper label)
  let written := if basic then label else sign ++ Punycode.encode label
  guard (written.length ≤ labelLimit)
  return written

/-- The dots between labels. -/
def isDot (c : Char) : Bool := c == '.' || c == '\u3002' || c == '\uff0e' || c == '\uff61'

/-- A host name of small letters in basic characters. A dot may close it. -/
def basicName? (name : List Char) : Option (List Char) := do
  guard (name.length ≤ nameLimit)
  let labels := name.splitOnP isDot
  let closed := labels.getLast? == some []
  let written ← (if closed then labels.dropLast else labels).mapM basic?
  let all := ['.'].intercalate (if closed then written ++ [[]] else written)
  guard (written != [] && all.length ≤ if closed then nameLimit else nameLimit - 1)
  return all

end DesignGauge.Label
