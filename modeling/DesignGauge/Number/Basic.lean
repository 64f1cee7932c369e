import DesignGauge.Number.Layout

/-!
# Numbers

A metric value or a threshold is an integer of any size or a double, and stays of its kind.
Comparison is exact across the kinds, on values `n · 2 ^ e` and the two infinities; nothing
compares with what is not a number.
-/

namespace DesignGauge

/-- Signed 64-bit integers are below this bound. -/
def signedBound : Int := 0x8000000000000000

/-- Unsigned 64-bit integers are below this bound. -/
def unsignedBound : Int := 0x10000000000000000

/-- An integer or a double. -/
inductive Number where
  | int (value : Int)
  | float (value : Double)
  deriving DecidableEq, Repr

/-- A point of the line of reals extended by two ends: `at n e` is `n · 2 ^ e`. -/
inductive Extent where
  | least
  | at (n : Int) (e : Int)
  | greatest
  deriving DecidableEq, Repr

/-- Order of extents. -/
def Extent.le : Extent → Extent → Bool
  | .least, _ => true
  | _, .greatest => true
  | .at n e, .at m f =>
    let k := min e f
    n * Nat.pow 2 (e - k).toNat ≤ m * Nat.pow 2 (f - k).toNat
  | _, _ => false

/-- The extent of a double, unless it is not a number. -/
def Double.extent? : Double → Option Extent
  | .finite x => some (.at x.signed x.exponent)
  | .infinite true => some .least
  | .infinite false => some .greatest
  | .nan => none

namespace Number

/-- The extent of a number, unless it is not a number. -/
def extent? : Number → Option Extent
  | .int i => some (.at i 0)
  | .float x => x.extent?

/-- `a ≤ b` as numbers. -/
def le (a b : Number) : Bool :=
  match a.extent?, b.extent? with
  | some x, some y => x.le y
  | _, _ => false

/-- `a < b` as numbers. -/
def lt (a b : Number) : Bool :=
  match a.extent?, b.extent? with
  | some x, some y => x.le y && !y.le x
  | _, _ => false

/-- Equality as numbers, across the kinds. -/
def equals (a b : Number) : Bool :=
  a.le b && b.le a

/-- The text of a number in a layout of doubles. -/
def render (layout : Layout) : Number → String
  | .int i => toString i
  | .float x => x.render layout

/-- The text of a number in a message. -/
def text (a : Number) : String :=
  a.render .message

/-- Neither infinite nor not a number. -/
def isFinite : Number → Bool
  | .int _ => true
  | .float x => x.isFinite

end Number

end DesignGauge
