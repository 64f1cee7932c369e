import DesignGauge.Number.Double
import Mathlib.Algebra.Order.Field.Power
import Mathlib.Data.Rat.Cast.Order
import Mathlib.Tactic.FieldSimp
import Mathlib.Tactic.Linarith
import Mathlib.Tactic.NormNum
import Mathlib.Tactic.Positivity
import Mathlib.Tactic.Ring

/-!
# Rounding a ratio to a double

A ratio of two naturals is brought to the one exponent at which its quotient has 53 bits, and the
quotient is rounded there. The values that lead to a given double are those nearer to it than to its
neighbours; half way, the even mantissa wins. Below a power of two the neighbour is at half the
distance, so rounding happens one exponent lower and carries over.

Results:
1. `floorLog_bounds`: the exponent of the leading bit of a ratio.
2. `roundDiv_eq_of_ratio`: what a quotient is rounded to.
3. `FiniteDouble.Near`: the values that are to be rounded to a double; `ofRatio_of_near`: they are.
4. `exists_finite_of_lt`: a ratio below a power of two in the range is rounded to a finite double.
-/

namespace DesignGauge

namespace Double

/-! ## Scaling -/

theorem scaled_den_pos {den : Nat} (positive : 0 < den) (num : Nat) (shift : Int) :
    0 < (scaled num den shift).2 := by
  unfold scaled
  split
  · exact positive
  · exact Nat.mul_pos positive (Nat.pow_pos (by decide))

/-- Scaling multiplies a ratio by a power of two. -/
theorem scaled_value (num den : Nat) (shift : Int) :
    ((scaled num den shift).1 : ℚ) / (scaled num den shift).2 = num / den * 2 ^ shift := by
  unfold scaled
  split
  · next up =>
    obtain ⟨n, rfl⟩ := Int.eq_ofNat_of_zero_le up
    rw [Int.toNat_natCast, zpow_natCast]
    push_cast [show Nat.pow 2 n = 2 ^ n from rfl]
    ring
  · next down =>
    obtain ⟨n, rfl⟩ : ∃ n : Nat, shift = -(n : Int) := ⟨(-shift).toNat, by omega⟩
    rw [neg_neg, Int.toNat_natCast, zpow_neg, zpow_natCast]
    push_cast [show Nat.pow 2 n = 2 ^ n from rfl]
    rw [div_mul_eq_div_div, div_eq_mul_inv (_ / _)]

theorem two_zpow_add (e : Int) (n : Nat) : (2 : ℚ) ^ (e + n) = 2 ^ n * 2 ^ e := by
  rw [zpow_add₀ (by norm_num), zpow_natCast, mul_comm]

theorem lt_of_two_zpow_lt {a b : Int} (less : (2 : ℚ) ^ a < 2 ^ b) : a < b :=
  (zpow_lt_zpow_iff_right₀ (by norm_num)).mp less

/-! ## The leading bit -/

theorem log2_bounds {n : Nat} (positive : 0 < n) :
    (2 : ℚ) ^ (Nat.log2 n : Int) ≤ n ∧ (n : ℚ) < 2 ^ ((Nat.log2 n : Int) + 1) := by
  constructor
  · rw [zpow_natCast]
    exact_mod_cast Nat.log2_self_le (Nat.pos_iff_ne_zero.mp positive)
  · rw [← Nat.cast_succ, zpow_natCast]
    exact_mod_cast Nat.lt_log2_self

section Ratio

variable {num den : Nat} (num_pos : 0 < num) (den_pos : 0 < den)
include num_pos den_pos

/-- A ratio lies between the power of two of its leading bit and the next one. -/
theorem floorLog_bounds :
    (2 : ℚ) ^ floorLog num den ≤ num / den ∧ (num : ℚ) / den < 2 ^ (floorLog num den + 1) := by
  obtain ⟨num_ge, num_lt⟩ := log2_bounds num_pos
  obtain ⟨den_ge, den_lt⟩ := log2_bounds den_pos
  have hden : (0 : ℚ) < den := by exact_mod_cast den_pos
  unfold floorLog
  simp only
  generalize hk : (Nat.log2 num : Int) - Nat.log2 den = k
  -- the difference of the two logarithms is right or one too great
  have upper : (num : ℚ) / den < 2 ^ (k + 1) := by
    rw [div_lt_iff₀ hden]
    calc (num : ℚ) < 2 ^ ((Nat.log2 num : Int) + 1) := num_lt
      _ = 2 ^ (k + 1) * 2 ^ (Nat.log2 den : Int) := by
        rw [← zpow_add₀ (by norm_num)]
        congr 1
        omega
      _ ≤ 2 ^ (k + 1) * den := by gcongr
  have lower : (2 : ℚ) ^ (k - 1) ≤ num / den := by
    rw [le_div_iff₀ hden]
    calc (2 : ℚ) ^ (k - 1) * den ≤ 2 ^ (k - 1) * 2 ^ ((Nat.log2 den : Int) + 1) := by gcongr
      _ = 2 ^ (Nat.log2 num : Int) := by
        rw [← zpow_add₀ (by norm_num)]
        congr 1
        omega
      _ ≤ num := num_ge
  have decides : (scaled num den (-k)).2 ≤ (scaled num den (-k)).1 ↔ (2 : ℚ) ^ k ≤ num / den := by
    have hscaled : (0 : ℚ) < (scaled num den (-k)).2 := by
      exact_mod_cast scaled_den_pos den_pos num (-k)
    rw [← Nat.cast_le (α := ℚ), ← one_le_div hscaled, scaled_value, zpow_neg, ← div_eq_mul_inv,
      one_le_div (by positivity)]
  split
  · next reaches => exact ⟨decides.mp reaches, upper⟩
  · next short =>
    rw [Int.sub_add_cancel]
    exact ⟨lower, lt_of_not_ge fun reaches => short (decides.mpr reaches)⟩

theorem floorLog_eq {k : Int} (lower : (2 : ℚ) ^ k ≤ num / den)
    (upper : (num : ℚ) / den < 2 ^ (k + 1)) : floorLog num den = k := by
  obtain ⟨ge, lt⟩ := floorLog_bounds num_pos den_pos
  have atMost := lt_of_two_zpow_lt (lt_of_le_of_lt ge upper)
  have atLeast := lt_of_two_zpow_lt (lt_of_le_of_lt lower lt)
  omega

end Ratio

/-! ## The rounded quotient -/

theorem roundDiv_eq {num den m : Nat} (den_pos : 0 < den)
    (lower : 2 * m * den ≤ 2 * num + den) (upper : 2 * num ≤ (2 * m + 1) * den)
    (tie : m % 2 = 0 ∨ (2 * m * den < 2 * num + den ∧ 2 * num < (2 * m + 1) * den)) :
    roundDiv num den = m := by
  unfold roundDiv
  simp only
  have parts := Nat.div_add_mod num den
  have small := Nat.mod_lt num den_pos
  generalize num / den = q at *
  generalize num % den = r at *
  subst parts
  -- the quotient is the number itself or the one before it
  have atMost : q ≤ m := by
    by_contra h
    have : (m + 1) * den ≤ q * den := Nat.mul_le_mul_right den (by omega)
    nlinarith
  have atLeast : m ≤ q + 1 := by
    by_contra h
    have : (q + 2) * den ≤ m * den := Nat.mul_le_mul_right den (by omega)
    nlinarith
  rcases Nat.lt_or_ge q m with less | notLess
  · obtain rfl : m = q + 1 := by omega
    have half : den ≤ 2 * r := by nlinarith
    have up : 2 * r > den ∨ 2 * r = den ∧ q % 2 = 1 := by
      rcases tie with even | ⟨strict, _⟩
      · omega
      · exact .inl (by nlinarith)
    rw [if_pos (by simpa using up)]
  · obtain rfl : m = q := by omega
    have half : 2 * r ≤ den := by nlinarith
    have stay : ¬ (2 * r > den ∨ 2 * r = den ∧ m % 2 = 1) := by
      rcases tie with even | ⟨_, strict⟩
      · omega
      · have : 2 * r < den := by nlinarith
        omega
    rw [if_neg (by simpa using stay)]

/-- A quotient is rounded to the natural that is at most a half away, of two to the even one. -/
theorem roundDiv_eq_of_ratio {num den m : Nat} (den_pos : 0 < den) {v : ℚ}
    (value : (num : ℚ) / den = v) (lower : (m : ℚ) - 1 / 2 ≤ v) (upper : v ≤ m + 1 / 2)
    (tie : m % 2 = 0 ∨ ((m : ℚ) - 1 / 2 < v ∧ v < m + 1 / 2)) : roundDiv num den = m := by
  have hden : (0 : ℚ) < den := by exact_mod_cast den_pos
  subst value
  rw [le_div_iff₀ hden] at lower
  rw [div_le_iff₀ hden] at upper
  rw [lt_div_iff₀ hden, div_lt_iff₀ hden] at tie
  apply roundDiv_eq den_pos
  · have : (2 * m * den : ℚ) ≤ 2 * num + den := by linarith
    exact_mod_cast this
  · have : (2 * num : ℚ) ≤ (2 * m + 1) * den := by linarith
    exact_mod_cast this
  · refine tie.imp_right fun ⟨strictLow, strictHigh⟩ => ⟨?_, ?_⟩
    · have : (2 * m * den : ℚ) < 2 * num + den := by linarith
      exact_mod_cast this
    · have : (2 * num : ℚ) < (2 * m + 1) * den := by linarith
      exact_mod_cast this

theorem roundDiv_le {num den bound : Nat} (den_pos : 0 < den) (le : num ≤ bound * den) :
    roundDiv num den ≤ bound := by
  have parts := Nat.div_add_mod num den
  have floor : num / den ≤ bound := Nat.div_le_of_le_mul (by rwa [Nat.mul_comm])
  unfold roundDiv
  simp only
  split
  · next up =>
    -- what is rounded up leaves a remainder, so it is not the bound itself
    have rest : 0 < num % den := by
      simp only [Bool.or_eq_true, decide_eq_true_eq, Bool.and_eq_true, beq_iff_eq] at up
      omega
    by_contra h
    have : num / den = bound := by omega
    rw [this, Nat.mul_comm] at parts
    omega
  · exact floor

theorem le_roundDiv {num den bound : Nat} (den_pos : 0 < den) (le : bound * den ≤ num) :
    bound ≤ roundDiv num den := by
  have floor : bound ≤ num / den := (Nat.le_div_iff_mul_le den_pos).mpr le
  unfold roundDiv
  simp only
  split <;> omega

/-! ## Mantissa and exponent of a ratio -/

/-- The exponent at which a ratio is rounded. -/
def exponentOf (num den : Nat) : Int := max (floorLog num den - 52) (-1074)

/-- What a ratio is rounded to at its exponent. -/
def mantissaOf (num den : Nat) : Nat :=
  let (n, d) := scaled num den (-exponentOf num den)
  roundDiv n d

theorem ofRatio_of_pos (negative : Bool) {num den : Nat} (num_pos : 0 < num) (den_pos : 0 < den) :
    ofRatio negative num den =
      if mantissaOf num den = 2 ^ 53 then pack negative (2 ^ 52) (exponentOf num den + 1)
      else pack negative (mantissaOf num den) (exponentOf num den) := by
  unfold ofRatio
  rw [if_neg (by simp only [Bool.or_eq_true, beq_iff_eq]; omega)]
  simp only [beq_iff_eq]
  rfl

theorem pack_of_canonical (negative : Bool) {mantissa : Nat} {exponent : Int}
    (canonical : Canonical mantissa exponent) :
    pack negative mantissa exponent = .finite ⟨negative, mantissa, exponent, canonical⟩ := by
  unfold pack
  rw [dif_pos canonical]

theorem mantissaOf_eq {num den : Nat} (den_pos : 0 < den) {m : Nat} {e : Int}
    (exponent : exponentOf num den = e) (lower : ((m : ℚ) - 1 / 2) * 2 ^ e ≤ num / den)
    (upper : (num : ℚ) / den ≤ (m + 1 / 2) * 2 ^ e)
    (tie : m % 2 = 0 ∨
      (((m : ℚ) - 1 / 2) * 2 ^ e < num / den ∧ (num : ℚ) / den < (m + 1 / 2) * 2 ^ e)) :
    mantissaOf num den = m := by
  have unit_pos : (0 : ℚ) < 2 ^ e := by positivity
  have value := scaled_value num den (-e)
  rw [zpow_neg, ← div_eq_mul_inv] at value
  rw [← le_div_iff₀ unit_pos] at lower
  rw [← div_le_iff₀ unit_pos] at upper
  rw [← lt_div_iff₀ unit_pos, ← div_lt_iff₀ unit_pos] at tie
  unfold mantissaOf
  rw [exponent]
  exact roundDiv_eq_of_ratio (scaled_den_pos den_pos num (-e)) value lower upper tie

end Double

/-! ## The values around a double -/

namespace FiniteDouble

open Double

/-- The magnitude of a double. -/
def magnitude (x : FiniteDouble) : ℚ := x.mantissa * 2 ^ x.exponent

/-- The distance to the next double above. -/
def unit (x : FiniteDouble) : ℚ := 2 ^ x.exponent

/-- The next double below is at half a unit: a power of two that is not among the least. -/
def isNarrow (x : FiniteDouble) : Bool := x.mantissa == Nat.pow 2 52 && x.exponent > -1074

/-- The lower end of the values around a double, in its unit. -/
def lowEnd (x : FiniteDouble) : ℚ := x.mantissa - if x.isNarrow then 1 / 4 else 1 / 2

/-- The upper end of the values around a double, in its unit. -/
def highEnd (x : FiniteDouble) : ℚ := x.mantissa + 1 / 2

/-- A value is nearer to a double than to its neighbours, or half way and the mantissa is even. -/
structure Near (x : FiniteDouble) (v : ℚ) : Prop where
  low : x.lowEnd * x.unit ≤ v
  high : v ≤ x.highEnd * x.unit
  tie : x.mantissa % 2 = 0 ∨ (x.lowEnd * x.unit < v ∧ v < x.highEnd * x.unit)

variable (x : FiniteDouble)

theorem unit_pos : 0 < x.unit := by
  unfold unit
  positivity

theorem two_pow_mul_unit (n : Nat) : 2 ^ n * x.unit = 2 ^ (x.exponent + n) :=
  (two_zpow_add x.exponent n).symm

theorem mantissa_sub_half_le_lowEnd : (x.mantissa : ℚ) - 1 / 2 ≤ x.lowEnd := by
  unfold lowEnd
  split <;> linarith

theorem mantissa_add_one_le : (x.mantissa : ℚ) + 1 ≤ 2 ^ 53 := by
  exact_mod_cast x.canonical.1

theorem lowEnd_of_narrow {x : FiniteDouble} (least : x.mantissa = 2 ^ 52)
    (more : -1074 < x.exponent) : x.lowEnd = 2 ^ 52 - 1 / 4 := by
  have narrow : x.isNarrow = true := by simp [isNarrow, least, more]
  rw [lowEnd, narrow, if_pos rfl, least]
  norm_num

variable {x}

theorem Near.lt_of_all_bits {v : ℚ} (near : x.Near v) : v < 2 ^ 53 * x.unit := by
  have u := x.unit_pos
  calc v ≤ x.highEnd * x.unit := near.high
    _ < 2 ^ 53 * x.unit := by
      gcongr
      unfold highEnd
      linarith [x.mantissa_add_one_le]

/-- Below the least full mantissa only a power of two is near. -/
theorem Near.mantissa_of_lt {v : ℚ} (near : x.Near v) (less : v < 2 ^ 52 * x.unit)
    (more : -1074 < x.exponent) : x.mantissa = 2 ^ 52 := by
  have full : 2 ^ 52 ≤ x.mantissa := x.canonical.2.2.2.resolve_right (by omega)
  by_contra other
  have next : (2 ^ 52 + 1 : ℚ) ≤ x.mantissa := by
    exact_mod_cast (show 2 ^ 52 + 1 ≤ x.mantissa by omega)
  have u := x.unit_pos
  have : 2 ^ 52 * x.unit ≤ x.lowEnd * x.unit := by
    gcongr
    linarith [x.mantissa_sub_half_le_lowEnd]
  linarith [near.low]

end FiniteDouble

namespace Double

open FiniteDouble

section Near

variable {num den : Nat} (num_pos : 0 < num) (den_pos : 0 < den) {x : FiniteDouble}
  (near : x.Near (num / den))
include num_pos den_pos near

theorem floorLog_le_of_near : floorLog num den ≤ x.exponent + 52 := by
  have less := near.lt_of_all_bits
  rw [two_pow_mul_unit] at less
  have := lt_of_two_zpow_lt (lt_of_le_of_lt (floorLog_bounds num_pos den_pos).1 less)
  omega

/-- A value that has all bits of the mantissa, or is among the least, is rounded at the exponent of
the double. -/
theorem exponentOf_of_near (full : 2 ^ 52 * x.unit ≤ num / den ∨ x.exponent = -1074) :
    exponentOf num den = x.exponent := by
  have atMost := floorLog_le_of_near num_pos den_pos near
  unfold exponentOf
  rcases full with full | least
  · rw [two_pow_mul_unit] at full
    have := lt_of_two_zpow_lt (lt_of_le_of_lt full (floorLog_bounds num_pos den_pos).2)
    have := x.canonical.2.1
    omega
  · omega

omit num_pos in
theorem mantissaOf_of_near (same : exponentOf num den = x.exponent) :
    mantissaOf num den = x.mantissa := by
  have ends : ((x.mantissa : ℚ) - 1 / 2) * x.unit ≤ x.lowEnd * x.unit :=
    mul_le_mul_of_nonneg_right x.mantissa_sub_half_le_lowEnd x.unit_pos.le
  refine mantissaOf_eq den_pos same (ends.trans near.low) near.high ?_
  exact near.tie.imp_right fun ⟨low, high⟩ => ⟨lt_of_le_of_lt ends low, high⟩

/-- A value just below a power of two is rounded one exponent lower, and carries over. -/
theorem carry_of_near (less : (num : ℚ) / den < 2 ^ 52 * x.unit) (more : -1074 < x.exponent) :
    exponentOf num den = x.exponent - 1 ∧ mantissaOf num den = 2 ^ 53 := by
  have low := near.low
  rw [lowEnd_of_narrow (near.mantissa_of_lt less more) more] at low
  have u := x.unit_pos
  have log : floorLog num den = x.exponent + 51 := by
    apply floorLog_eq num_pos den_pos
    · have := x.two_pow_mul_unit 51
      push_cast at this
      rw [← this]
      linarith
    · have := x.two_pow_mul_unit 52
      push_cast at this
      rwa [add_assoc, show (51 + 1 : Int) = 52 by norm_num, ← this]
  have exponent : exponentOf num den = x.exponent - 1 := by
    unfold exponentOf
    omega
  have halved : (2 : ℚ) ^ (x.exponent - 1) = x.unit / 2 := by
    rw [unit, zpow_sub₀ (by norm_num), zpow_one]
  refine ⟨exponent, mantissaOf_eq den_pos exponent ?_ ?_ (.inl (by norm_num))⟩
  · rw [halved]
    push_cast
    linarith
  · rw [halved]
    push_cast
    linarith

/-- What is near to a double is rounded to it. -/
theorem ofRatio_of_near (negative : Bool) :
    ofRatio negative num den = .finite ⟨negative, x.mantissa, x.exponent, x.canonical⟩ := by
  rw [ofRatio_of_pos negative num_pos den_pos]
  by_cases full : 2 ^ 52 * x.unit ≤ num / den ∨ x.exponent = -1074
  · have exponent := exponentOf_of_near num_pos den_pos near full
    have mantissa := mantissaOf_of_near den_pos near exponent
    have notCarried : x.mantissa ≠ 2 ^ 53 := Nat.ne_of_lt x.canonical.1
    rw [mantissa, exponent, if_neg notCarried, pack_of_canonical negative x.canonical]
  · obtain ⟨less, other⟩ := not_or.mp full
    have more : -1074 < x.exponent := lt_of_le_of_ne x.canonical.2.1 (Ne.symm other)
    obtain ⟨exponent, mantissa⟩ := carry_of_near num_pos den_pos near (not_le.mp less) more
    have canonical := x.canonical
    have least := near.mantissa_of_lt (not_le.mp less) more
    rw [least] at canonical
    rw [mantissa, if_pos rfl, exponent, Int.sub_add_cancel, pack_of_canonical negative canonical]
    simp only [least]

end Near

/-! ## Finite results -/

section Bounds

variable {num den : Nat} (num_pos : 0 < num) (den_pos : 0 < den)
include num_pos den_pos

theorem mantissaOf_le : mantissaOf num den ≤ 2 ^ 53 := by
  have scaled_pos := scaled_den_pos den_pos num (-exponentOf num den)
  have hscaled : (0 : ℚ) < (scaled num den (-exponentOf num den)).2 := by exact_mod_cast scaled_pos
  apply roundDiv_le scaled_pos
  have bound : (num : ℚ) / den < 2 ^ (exponentOf num den + 53) := by
    refine lt_of_lt_of_le (floorLog_bounds num_pos den_pos).2 (zpow_le_zpow_right₀ (by norm_num) ?_)
    unfold exponentOf
    omega
  have value := scaled_value num den (-exponentOf num den)
  rw [div_eq_iff hscaled.ne', zpow_neg, ← div_eq_mul_inv] at value
  have two := two_zpow_add (exponentOf num den) 53
  push_cast at two
  rw [two, ← div_lt_iff₀ (by positivity)] at bound
  have : ((scaled num den (-exponentOf num den)).1 : ℚ) ≤
      2 ^ 53 * (scaled num den (-exponentOf num den)).2 := by
    rw [value]
    gcongr
  exact_mod_cast this

theorem mantissaOf_full : 2 ^ 52 ≤ mantissaOf num den ∨ exponentOf num den = -1074 := by
  by_cases least : exponentOf num den = -1074
  · exact .inr least
  · left
    have log : floorLog num den = exponentOf num den + 52 := by
      unfold exponentOf at least ⊢
      omega
    have scaled_pos := scaled_den_pos den_pos num (-exponentOf num den)
    have hscaled : (0 : ℚ) < (scaled num den (-exponentOf num den)).2 := by
      exact_mod_cast scaled_pos
    apply le_roundDiv scaled_pos
    have bound := (floorLog_bounds num_pos den_pos).1
    have value := scaled_value num den (-exponentOf num den)
    rw [div_eq_iff hscaled.ne', zpow_neg, ← div_eq_mul_inv] at value
    have two := two_zpow_add (exponentOf num den) 52
    push_cast at two
    rw [log, two, ← le_div_iff₀ (by positivity)] at bound
    have : 2 ^ 52 * ((scaled num den (-exponentOf num den)).2 : ℚ) ≤
        (scaled num den (-exponentOf num den)).1 := by
      rw [value]
      gcongr
    exact_mod_cast this

end Bounds

/-- A ratio below a power of two in the range is rounded to a finite double, whose exponent is
bounded alike. -/
theorem exists_finite_of_lt (negative : Bool) {num den k : Nat} (small : k ≤ 1023)
    (less : (num : ℚ) / den < 2 ^ k) :
    ∃ x : FiniteDouble, ofRatio negative num den = .finite x ∧ x.exponent ≤ k - 52 := by
  by_cases void : num = 0 ∨ den = 0
  · refine ⟨⟨negative, 0, -1074, by decide⟩, ?_, by simp only; omega⟩
    unfold ofRatio
    rw [if_pos (by simpa using void)]
    rfl
  obtain ⟨num_pos, den_pos⟩ : 0 < num ∧ 0 < den := by omega
  have exponent_le : exponentOf num den ≤ k - 53 := by
    have less' : (num : ℚ) / den < 2 ^ (k : Int) := by exact_mod_cast less
    have := lt_of_two_zpow_lt (lt_of_le_of_lt (floorLog_bounds num_pos den_pos).1 less')
    unfold exponentOf
    omega
  have exponent_ge : -1074 ≤ exponentOf num den := le_max_right _ _
  rw [ofRatio_of_pos negative num_pos den_pos]
  split
  · -- all bits were rounded up to the next power of two
    have canonical : Canonical (Nat.pow 2 52) (exponentOf num den + 1) :=
      ⟨by decide, by omega, by omega, .inl (by decide)⟩
    exact ⟨_, pack_of_canonical negative canonical, by simp only; omega⟩
  · next notCarried =>
    have less : mantissaOf num den < 2 ^ 53 :=
      lt_of_le_of_ne (mantissaOf_le num_pos den_pos) notCarried
    have canonical : Canonical (mantissaOf num den) (exponentOf num den) :=
      ⟨less, exponent_ge, by omega, mantissaOf_full num_pos den_pos⟩
    exact ⟨_, pack_of_canonical negative canonical, by simp only; omega⟩

end Double

end DesignGauge
