import DesignGauge.Number.Double

/-!
# Shortest decimals

The decimal with the fewest digits that rounds to a given double, and of those the nearest to
it. Decimal grids of 1, 2, … 17 digits are tried in turn; on each grid only the two neighbours of
the value can lie in the interval that rounds to it.
-/

namespace DesignGauge

/-- A positive decimal `digits · 10 ^ exponent`, or zero. -/
structure Decimal where
  digits : Nat
  exponent : Int
  deriving DecidableEq, Repr

namespace Decimal

/-- Drops zeros from the end of the digits, at most `fuel` of them. -/
def trim (fuel : Nat) (d : Decimal) : Decimal :=
  match fuel with
  | 0 => d
  | fuel + 1 =>
    if d.digits != 0 && d.digits % 10 == 0 then trim fuel ⟨d.digits / 10, d.exponent + 1⟩ else d

end Decimal

namespace FiniteDouble

/-- The value and the ends of the interval that rounds to it, as multiples of a quarter of the
last place: `low`, `mid` and `high` over the same unit `num / den`. -/
structure Interval where
  low : Nat
  mid : Nat
  high : Nat
  num : Nat
  den : Nat
  closed : Bool
  deriving Repr

/-- The interval of reals that round to a positive double. Below a power of two the lower half
is narrower; the ends belong to it when the mantissa is even. -/
def interval (x : FiniteDouble) : Interval :=
  let (num, den) := Double.scaled 1 1 (x.exponent - 2)
  let narrow := x.mantissa == Nat.pow 2 52 && x.exponent > -1074
  { low := 4 * x.mantissa - (if narrow then 1 else 2)
    mid := 4 * x.mantissa
    high := 4 * x.mantissa + 2
    num := num
    den := den
    closed := x.mantissa % 2 == 0 }

/-- `10 ^ s` as a ratio of naturals. -/
def powTen (s : Int) : Nat × Nat :=
  if 0 ≤ s then (Nat.pow 10 s.toNat, 1) else (1, Nat.pow 10 (-s).toNat)

/-- `c · 10 ^ s` lies in the interval. -/
def Interval.holds (i : Interval) (c : Nat) (s : Int) : Bool :=
  let (p, q) := powTen s
  let point := c * p * i.den
  let low := i.low * i.num * q
  let high := i.high * i.num * q
  if i.closed then low ≤ point && point ≤ high else low < point && point < high

/-- The greatest `p` with `10 ^ p ≤ x`, for a positive double. -/
def floorLogTen (x : FiniteDouble) : Int :=
  let (n, d) := x.ratio
  let guess := Double.floorLog n d * 30103 / 100000
  let reaches (p : Int) : Bool :=
    let (a, b) := powTen p
    a * d ≤ n * b
  if reaches (guess + 1) then guess + 1 else if reaches guess then guess else guess - 1

/-- The grid point of step `10 ^ s` that rounds to the double and is nearest to it, if any. -/
def gridPoint? (i : Interval) (s : Int) : Option Nat :=
  let (p, q) := powTen s
  let n := i.mid * i.num * q
  let d := i.den * p
  let below := n / d
  let r := n % d
  match i.holds below s, i.holds (below + 1) s with
  | true, true =>
    some (if 2 * r > d || (2 * r == d && below % 2 == 1) then below + 1 else below)
  | true, false => some below
  | false, true => some (below + 1)
  | false, false => none

/-- The first of the steps `s`, `s - 1`, … with a grid point. -/
def searchGrid (i : Interval) (s : Int) : Nat → Decimal
  | 0 =>
    let (p, q) := powTen s
    ⟨i.mid * i.num * q / (i.den * p), s⟩
  | fuel + 1 =>
    match gridPoint? i s with
    | some c => ⟨c, s⟩
    | none => searchGrid i (s - 1) fuel

/-- The shortest decimal that rounds to the magnitude of a double. -/
def shortest (x : FiniteDouble) : Decimal :=
  if x.isZero then ⟨0, 0⟩ else (searchGrid x.interval x.floorLogTen 17).trim 20

end FiniteDouble

end DesignGauge
