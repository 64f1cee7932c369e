import DesignGauge.Number.Basic
import DesignGauge.Text.Pieces
import DesignGauge.Text.Utf8
import DesignGauge.Text.Word

/-!
# Reading numbers

The decimal grammar: a sign, digits with a point somewhere, an exponent, or one of the words for
what is not finite. Around it stand two habits of writing: settings and metric mappings allow
blanks, digits of any script and single underscores between digits; wire values allow white space
and underscores that are neither doubled nor at an end.
-/

namespace DesignGauge

open Text

namespace Reading

/-- The value of a list of basic digits. -/
def natOf (digits : List Char) : Nat :=
  digits.foldl (fun n c => 10 * n + (c.toNat - '0'.toNat)) 0

/-- Splits a leading sign off; true stands for a minus. -/
def sign : List Char → Bool × List Char
  | '-' :: rest => (true, rest)
  | '+' :: rest => (false, rest)
  | text => (false, text)

/-- Splits a minus sign off the front of a text; true stands for a minus. -/
def takeMinus : List Char → Bool × List Char
  | '-' :: rest => (true, rest)
  | text => (false, text)

/-- The exponent part, which must be the whole text. -/
def exponent? : List Char → Option Int
  | [] => some 0
  | e :: rest =>
    if e == 'e' || e == 'E' then
      let (negative, digits) := sign rest
      if digits.isEmpty || !digits.all isAsciiDigit then none
      else some (if negative then -(natOf digits : Int) else natOf digits)
    else none

/-- A decimal without sign, all of the text. -/
def unsigned? (negative : Bool) (text : List Char) : Option Double := do
  let whole := text.takeWhile isAsciiDigit
  let rest := text.dropWhile isAsciiDigit
  let (fraction, rest) := match rest with
    | '.' :: rest => (rest.takeWhile isAsciiDigit, rest.dropWhile isAsciiDigit)
    | _ => ([], rest)
  if whole.isEmpty && fraction.isEmpty then none
  else
    let exponent ← exponent? rest
    return Double.ofDecimal negative (natOf (whole ++ fraction)) (exponent - fraction.length)

/-- A double in the decimal grammar, all of the text. -/
def double? (text : List Char) : Option Double :=
  let (negative, rest) := sign text
  let word := String.ofList (rest.map Char.toLower)
  if word == "inf" || word == "infinity" then some (.infinite negative)
  else if word == "nan" then some .nan
  else unsigned? negative rest

/-- Removes underscores that stand between two digits; any other is refused. -/
def joinGroups? : List Char → Option (List Char)
  | [] => some []
  | '_' :: _ => none
  | c :: '_' :: d :: rest =>
    if isAsciiDigit c && isAsciiDigit d then (joinGroups? (d :: rest)).map (c :: ·) else none
  | [_, '_'] => none
  | c :: rest => (joinGroups? rest).map (c :: ·)

/-- A digit of any script as a basic digit, and any blank as a space. -/
def plain (c : Char) : Char :=
  match digitValue? c with
  | some n => Char.ofNat ('0'.toNat + n)
  | none => if isBlank c then ' ' else c

/-- A character that may stand around a number: a space, a tabulation or a line end, and every
blank beyond the basic range. -/
def surrounds (c : Char) : Bool :=
  c == ' ' || (9 ≤ c.toNat && c.toNat ≤ 13) || (0x80 ≤ c.toNat && isBlank c)

/-- A text without what may stand around a number, its digits as basic digits. -/
def bare (text : List Char) : List Char :=
  (dropRightWhile surrounds (text.dropWhile surrounds)).map plain

/-- A double as people write it: blanks around it, digits of any script, grouped by single
underscores. -/
def ofText? (text : String) : Option Double := do
  let digits ← joinGroups? (bare text.toList)
  double? digits

/-- The double that octets spell, if all of them are in the basic range. -/
def ofOctets? (octets : Octets) : Option Double :=
  if octets.all (·.toNat < 0x80) then
    ofText? (String.ofList (octets.map fun b => Char.ofNat b.toNat))
  else none

/-- An integer as people write it: blanks around it, digits of any script, grouped by single
underscores. -/
def wholeOfText? (text : String) : Option Int := do
  let (negative, digits) := sign (bare text.toList)
  let joined ← joinGroups? digits
  if joined.isEmpty || !joined.all isAsciiDigit then none
  else return if negative then -(natOf joined : Int) else natOf joined

/-- Strips white space from both ends. -/
def trim (text : List Char) : List Char :=
  dropRightWhile isWhiteSpace (text.dropWhile isWhiteSpace)

/-- Removes underscores, unless one is doubled or stands at an end. -/
def dropUnderscores? (text : List Char) : Option (List Char) :=
  if text.head? == some '_' || text.getLast? == some '_' || holdsPiece ['_', '_'] text then none
  else some (text.filter (· != '_'))

/-- A double of the wire format. -/
def wireDouble? (text : String) : Option Double :=
  let trimmed := trim text.toList
  match double? trimmed with
  | some x => some x
  | none => (dropUnderscores? trimmed).bind double?

/-- Why a text is no integer of the wire format. -/
inductive IntRefusal where
  | malformed
  | tooLong
  deriving DecidableEq, Repr

/-- The greatest number of digits, and of octets of a text, that is read as an integer. -/
def digitLimit : Nat := 4300

/-- Drops a plus sign; behind one there is no minus sign. -/
def dropPlus? : List Char → Option (List Char)
  | '+' :: '-' :: _ => none
  | '+' :: rest => some rest
  | text => some text

/-- Drops a fraction of zeros, one at least. -/
def dropZeros? (text : List Char) : Option (List Char) :=
  let fraction := text.dropWhile (· != '.')
  if fraction == ['.'] || !(fraction.drop 1).all (· == '0') then none
  else some (text.takeWhile (· != '.'))

/-- The integer of some digits with a minus sign or without. Zeros in front are admitted without
the sign only. -/
def signedInt? (text : List Char) : Option Int :=
  let (negative, digits) := takeMinus text
  if digits.isEmpty || !digits.all isAsciiDigit then none
  else if negative && digits.head? == some '0' && digits.length > 1 then none
  else some (if negative then -(natOf digits : Int) else natOf digits)

/-- An integer of the wire format: a sign, digits, and a fraction of zeros. -/
def wireInt (text : String) : Except IntRefusal Int :=
  let trimmed := trim text.toList
  if (Utf8.encode trimmed).length > digitLimit then .error .tooLong
  else match (((dropPlus? trimmed).bind dropZeros?).bind dropUnderscores?).bind signedInt? with
    | some i => .ok i
    | none => .error .malformed

end Reading

end DesignGauge
