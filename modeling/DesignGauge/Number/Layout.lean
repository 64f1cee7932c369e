import DesignGauge.Number.Shortest

/-!
# Layouts of a double

The digits of a double are the shortest that read back. A layout says how they are set: which
exponents are written out in positional notation, and how an exponent is spelled.
-/

namespace DesignGauge

/-- How the digits of a double are set. -/
structure Layout where
  /-- The least decimal exponent that is written in positional notation. -/
  leastPositional : Int
  /-- An exponent has at least this many digits. -/
  exponentDigits : Nat
  /-- The mantissa of an exponent form always has a point. -/
  pointBeforeExponent : Bool
  notANumber : String
  infinity : String
  deriving DecidableEq, Repr

namespace Layout

/-- Messages and answers: `1e-05`, `1e+16`, `0.0001`, `nan`, `inf`. -/
def message : Layout := ⟨-4, 2, false, "nan", "inf"⟩

/-- Written component and report files: `1e-6`, `1e+16`, `0.00001`; what is not finite is null. -/
def document : Layout := ⟨-5, 1, false, "null", "null"⟩

/-- Threshold files: as in messages, but with a point in front of an exponent. -/
def thresholds : Layout := ⟨-4, 2, true, ".nan", ".inf"⟩

end Layout

/-- The decimal digits of a natural. -/
def digitChars (n : Nat) : List Char :=
  Nat.toDigits 10 n

/-- Zeros in front of a list of digits up to a width. -/
def padZeros (width : Nat) (digits : List Char) : List Char :=
  List.replicate (width - digits.length) '0' ++ digits

namespace Decimal

/-- The exponent of the leading digit. -/
def leading (d : Decimal) : Int :=
  d.exponent + (digitChars d.digits).length - 1

/-- Positional notation, with at least one digit on each side of the point. -/
def positional (d : Decimal) : List Char :=
  let digits := digitChars d.digits
  if 0 ≤ d.exponent then digits ++ List.replicate d.exponent.toNat '0' ++ ['.', '0']
  else
    let places := (-d.exponent).toNat
    let padded := padZeros (places + 1) digits
    padded.take (padded.length - places) ++ '.' :: padded.drop (padded.length - places)

/-- Exponent notation: one digit, the others behind a point, the exponent with its sign. -/
def scientific (layout : Layout) (d : Decimal) : List Char :=
  let digits := digitChars d.digits
  let mantissa := match digits.drop 1 with
    | [] => digits ++ (if layout.pointBeforeExponent then ['.', '0'] else [])
    | rest => digits.take 1 ++ '.' :: rest
  let sign := if d.leading < 0 then '-' else '+'
  mantissa ++ 'e' :: sign :: padZeros layout.exponentDigits (digitChars d.leading.natAbs)

/-- The text of a decimal in a layout. -/
def render (layout : Layout) (d : Decimal) : List Char :=
  if d.digits == 0 || (layout.leastPositional ≤ d.leading && d.leading < 16) then d.positional
  else d.scientific layout

end Decimal

namespace Double

/-- The text of a double in a layout. -/
def render (layout : Layout) : Double → String
  | .finite x =>
    String.ofList ((if x.negative then ['-'] else []) ++ x.shortest.render layout)
  | .infinite negative =>
    if negative && layout.infinity != "null" then "-" ++ layout.infinity else layout.infinity
  | .nan => layout.notANumber

/-- The text of a double in a message. -/
def text (x : Double) : String :=
  x.render .message

end Double

end DesignGauge
