/-!
# Doubles

Binary floating-point numbers of double precision as exact values: a finite one is
`± mantissa · 2 ^ exponent` in the one canonical form of its value. Rounding a ratio of two
naturals is the only way in, so each operation is an exact computation followed by one rounding.
-/

namespace DesignGauge

/-- The canonical form: 53 bits of mantissa, all of them used unless the exponent is least. -/
def Canonical (mantissa : Nat) (exponent : Int) : Prop :=
  mantissa < Nat.pow 2 53 ∧ -1074 ≤ exponent ∧ exponent ≤ 971
    ∧ (Nat.pow 2 52 ≤ mantissa ∨ exponent = -1074)

instance (mantissa : Nat) (exponent : Int) : Decidable (Canonical mantissa exponent) := by
  unfold Canonical
  exact inferInstance

/-- A finite double. -/
structure FiniteDouble where
  negative : Bool
  mantissa : Nat
  exponent : Int
  canonical : Canonical mantissa exponent
  deriving DecidableEq, Repr

/-- A double: finite, infinite or not a number. -/
inductive Double where
  | finite (value : FiniteDouble)
  | infinite (negative : Bool)
  | nan
  deriving DecidableEq, Repr

namespace Double

/-- Zero, with its sign. -/
def zero (negative : Bool) : Double :=
  .finite ⟨negative, 0, -1074, by decide⟩

instance : Inhabited Double := ⟨zero false⟩

/-- The double of a canonical pair; what has no canonical form is beyond the range. -/
def pack (negative : Bool) (mantissa : Nat) (exponent : Int) : Double :=
  if h : Canonical mantissa exponent then .finite ⟨negative, mantissa, exponent, h⟩
  else .infinite negative

/-- Nearest natural to a quotient, a half going to the even neighbour. -/
def roundDiv (num den : Nat) : Nat :=
  let q := num / den
  let r := num % den
  if 2 * r > den || (2 * r == den && q % 2 == 1) then q + 1 else q

/-- `num * 2 ^ shift / den` as a ratio of naturals, for a shift of either sign. -/
def scaled (num den : Nat) (shift : Int) : Nat × Nat :=
  if 0 ≤ shift then (num * Nat.pow 2 shift.toNat, den)
  else (num, den * Nat.pow 2 (-shift).toNat)

/-- The greatest `k` with `2 ^ k ≤ num / den`, for positive `num` and `den`. -/
def floorLog (num den : Nat) : Int :=
  let k : Int := (Nat.log2 num : Int) - (Nat.log2 den : Int)
  let (n, d) := scaled num den (-k)
  if d ≤ n then k else k - 1

/-- The double nearest to `± num / den`, a tie going to the even mantissa. -/
def ofRatio (negative : Bool) (num den : Nat) : Double :=
  if num == 0 || den == 0 then zero negative
  else
    let exponent := max (floorLog num den - 52) (-1074)
    let (n, d) := scaled num den (-exponent)
    let mantissa := roundDiv n d
    if mantissa == Nat.pow 2 53 then pack negative (Nat.pow 2 52) (exponent + 1)
    else pack negative mantissa exponent

/-- The double nearest to `± digits · 10 ^ exponent`. Exponents far outside the range are
decided without the power. -/
def ofDecimal (negative : Bool) (digits : Nat) (exponent : Int) : Double :=
  if digits == 0 then zero negative
  else
    let size : Int := (Nat.log2 digits : Int)
    if exponent > 400 then .infinite negative
    else if exponent * 3 + size < -1200 && exponent < -400 then zero negative
    else if 0 ≤ exponent then ofRatio negative (digits * Nat.pow 10 exponent.toNat) 1
    else ofRatio negative digits (Nat.pow 10 (-exponent).toNat)

/-- The double nearest to an integer, unless it is beyond the range. -/
def ofInt? (i : Int) : Option Double :=
  match ofRatio (i < 0) i.natAbs 1 with
  | .finite value => some (.finite value)
  | _ => none

/-- Neither infinite nor not a number. -/
def isFinite : Double → Bool
  | .finite _ => true
  | _ => false

/-- The opposite number. -/
def neg : Double → Double
  | .finite value => .finite ⟨!value.negative, value.mantissa, value.exponent, value.canonical⟩
  | .infinite negative => .infinite (!negative)
  | .nan => .nan

end Double

namespace FiniteDouble

/-- Zero of either sign. -/
def isZero (x : FiniteDouble) : Bool :=
  x.mantissa == 0

/-- The value as `n · 2 ^ e` with an integer `n`. -/
def signed (x : FiniteDouble) : Int :=
  if x.negative then -(x.mantissa : Int) else x.mantissa

/-- The magnitude as a ratio of naturals. -/
def ratio (x : FiniteDouble) : Nat × Nat :=
  Double.scaled x.mantissa 1 x.exponent

/-- The value when it is an integer. -/
def toInt? (x : FiniteDouble) : Option Int :=
  let (n, d) := x.ratio
  if n % d == 0 then some (if x.negative then -((n / d : Nat) : Int) else (n / d : Nat)) else none

/-- Hundredths nearest to the value, a half going to the even neighbour. -/
def hundredths (x : FiniteDouble) : Nat :=
  let (n, d) := x.ratio
  Double.roundDiv (n * 100) d

end FiniteDouble

namespace Double

/-- The value when it is an integer. -/
def toInt? : Double → Option Int
  | .finite value => value.toInt?
  | _ => none

/-- An exact sum `n · 2 ^ e` as a double. A sum of zero is positive unless both parts are
negative zeros. -/
def ofDyadic (negativeZero : Bool) (n : Int) (e : Int) : Double :=
  if n == 0 then zero negativeZero
  else
    let (num, den) := scaled n.natAbs 1 e
    ofRatio (n < 0) num den

/-- Sum, rounded once. -/
def add : Double → Double → Double
  | .nan, _ => .nan
  | _, .nan => .nan
  | .infinite a, .infinite b => if a == b then .infinite a else .nan
  | .infinite a, _ => .infinite a
  | _, .infinite b => .infinite b
  | .finite x, .finite y =>
    let e := min x.exponent y.exponent
    let n := x.signed * Nat.pow 2 (x.exponent - e).toNat
      + y.signed * Nat.pow 2 (y.exponent - e).toNat
    ofDyadic (x.negative && y.negative) n e

/-- Difference, rounded once. -/
def sub (x y : Double) : Double :=
  add x y.neg

/-- Product, rounded once. -/
def mul : Double → Double → Double
  | .nan, _ => .nan
  | _, .nan => .nan
  | .infinite a, .infinite b => .infinite (a != b)
  | .infinite a, .finite y => if y.isZero then .nan else .infinite (a != y.negative)
  | .finite x, .infinite b => if x.isZero then .nan else .infinite (x.negative != b)
  | .finite x, .finite y =>
    let (num, den) := scaled (x.mantissa * y.mantissa) 1 (x.exponent + y.exponent)
    ofRatio (x.negative != y.negative) num den

/-- The quotient of two naturals, rounded once; the divisor is positive. -/
def ofQuotient (num den : Nat) : Double :=
  ofRatio false num den

/-- The quotient of two naturals, unless it is beyond the range. -/
def ofQuotient? (num den : Nat) : Option Double :=
  match ofQuotient num den with
  | .finite value => some (.finite value)
  | _ => none

/-- The value rounded to two decimal places. -/
def roundHundredths : Double → Double
  | .finite x => ofRatio x.negative x.hundredths 100
  | x => x

end Double

end DesignGauge
