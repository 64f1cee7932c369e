import DesignGauge.Number.Basic
import DesignGauge.Proofs.Number.Rounding
import Mathlib.Order.WithBot

/-!
# The order of numbers

An extent is a point of the rationals with two ends, and comparing extents compares these points. A
number that is not a number has no point and compares with nothing, so that the order of the others
carries over to comparisons of integers with doubles.

Results:
1. `Extent.le_iff`: the order of extents is that of their points.
2. `Number.lt_iff`, `Number.le_iff`: when a comparison of numbers succeeds.
3. `Number.lt_of_lt_of_le`, `Number.not_lt_of_le`: mixed comparisons.
-/

namespace DesignGauge

namespace Extent

/-- The point of an extent among the rationals and their two ends. -/
def point : Extent → WithBot (WithTop ℚ)
  | .least => ⊥
  | .at n e => ((n * 2 ^ e : ℚ) : WithTop ℚ)
  | .greatest => ((⊤ : WithTop ℚ) : WithBot (WithTop ℚ))

/-- Bringing an integer to a lower exponent keeps its value. -/
theorem shifted_value (n : Int) {e k : Int} (le : k ≤ e) :
    ((n * Nat.pow 2 (e - k).toNat : Int) : ℚ) * 2 ^ k = n * 2 ^ e := by
  obtain ⟨shift, rfl⟩ : ∃ shift : Nat, e = k + shift := ⟨(e - k).toNat, by omega⟩
  rw [show (k + shift - k).toNat = shift by omega, Double.two_zpow_add]
  push_cast [show Nat.pow 2 shift = 2 ^ shift from rfl]
  ring

theorem le_at_iff {n m e f : Int} :
    (Extent.at n e).le (.at m f) = true ↔ (n * 2 ^ e : ℚ) ≤ m * 2 ^ f := by
  have unit_pos : (0 : ℚ) < 2 ^ min e f := by positivity
  rw [← shifted_value n (min_le_left e f), ← shifted_value m (min_le_right e f),
    mul_le_mul_iff_left₀ unit_pos, Int.cast_le]
  exact decide_eq_true_iff

theorem le_iff {x y : Extent} : x.le y = true ↔ x.point ≤ y.point := by
  cases x with
  | least => simp [Extent.le, point]
  | greatest =>
    cases y with
    | least => simp [Extent.le, point]
    | greatest => simp [Extent.le, point]
    | «at» m f =>
      rw [point, point]
      generalize (m * 2 ^ f : ℚ) = q
      simp [Extent.le]
  | «at» n e =>
    cases y with
    | least =>
      rw [point, point]
      generalize (n * 2 ^ e : ℚ) = q
      simp [Extent.le]
    | greatest => simp [Extent.le, point]
    | «at» m f => rw [le_at_iff, point, point, WithBot.coe_le_coe, WithTop.coe_le_coe]

end Extent

namespace Number

/-- The point of a number, unless it is not a number. -/
def point? (a : Number) : Option (WithBot (WithTop ℚ)) := a.extent?.map Extent.point

theorem le_iff {a b : Number} :
    a.le b = true ↔ ∃ x ∈ a.point?, ∃ y ∈ b.point?, x ≤ y := by
  unfold le point?
  cases a.extent? with
  | none => simp
  | some x =>
    cases b.extent? with
    | none => simp
    | some y => simp [Extent.le_iff]

theorem lt_iff {a b : Number} :
    a.lt b = true ↔ ∃ x ∈ a.point?, ∃ y ∈ b.point?, x < y := by
  unfold lt point?
  cases a.extent? with
  | none => simp
  | some x =>
    cases b.extent? with
    | none => simp
    | some y =>
      rw [Bool.and_eq_true, Bool.not_eq_true', ← Bool.not_eq_true, Extent.le_iff, Extent.le_iff,
        ← lt_iff_le_not_ge]
      simp

theorem lt_of_lt_of_le {a b c : Number} (less : a.lt b = true) (le : b.le c = true) :
    a.lt c = true := by
  obtain ⟨x, ofA, y, ofB, below⟩ := lt_iff.mp less
  obtain ⟨y', ofB', z, ofC, atMost⟩ := le_iff.mp le
  obtain rfl : y = y' := Option.mem_unique ofB ofB'
  exact lt_iff.mpr ⟨x, ofA, z, ofC, below.trans_le atMost⟩

theorem not_lt_of_le {a b : Number} (le : a.le b = true) : b.lt a = false := by
  rw [← Bool.not_eq_true]
  intro less
  obtain ⟨x, ofA, y, ofB, atMost⟩ := le_iff.mp le
  obtain ⟨y', ofB', x', ofA', below⟩ := lt_iff.mp less
  obtain rfl : y = y' := Option.mem_unique ofB ofB'
  obtain rfl : x = x' := Option.mem_unique ofA ofA'
  exact absurd atMost (not_le_of_gt below)

/-- Two numbers are the same, or equal by comparison, which a number that is not one never is. -/
def Agrees (a b : Number) : Prop := a = b ∨ a.equals b = true

/-- Numbers that agree have the same numbers above them. -/
theorem Agrees.lt_eq {a b : Number} (agrees : a.Agrees b) (c : Number) : a.lt c = b.lt c := by
  rcases agrees with rfl | equal
  · rfl
  · obtain ⟨le, ge⟩ := Bool.and_eq_true_iff.mp equal
    obtain ⟨x, ofA, y, ofB, xy⟩ := le_iff.mp le
    obtain ⟨y', ofB', x', ofA', yx⟩ := le_iff.mp ge
    obtain rfl : y = y' := Option.mem_unique ofB ofB'
    obtain rfl : x = x' := Option.mem_unique ofA ofA'
    have same : a.point? = b.point? := by
      rw [Option.mem_def.mp ofA, Option.mem_def.mp ofB, le_antisymm xy yx]
    rw [Bool.eq_iff_iff, lt_iff, lt_iff, same]

end Number

end DesignGauge
