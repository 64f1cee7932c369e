import DesignGauge.Number.Shortest
import DesignGauge.Proofs.Number.Rounding

/-!
# Shortest decimals read back

The decimal that is chosen for a double lies among the values around it. The search ends because on
a grid of seventeen digits the step is less than the distance of two doubles, so that one of the two
neighbours of the double is nearer to it than to any other; below a power of two, where the lower
half is narrower, it is the upper neighbour.

Results:
1. `FiniteDouble.holds_iff`: the interval of a double holds exactly the values around it.
2. `FiniteDouble.near_shortest`: the shortest decimal is one of them.
3. `Double.ofDecimal_shortest`: every spelling of the shortest decimal is rounded to the double.
-/

namespace DesignGauge

/-- The value of a decimal. -/
def Decimal.value (d : Decimal) : ℚ := d.digits * 10 ^ d.exponent

namespace FiniteDouble

open Double

/-! ## Powers of ten -/

theorem powTen_pos (s : Int) : 0 < (powTen s).1 ∧ 0 < (powTen s).2 := by
  unfold powTen
  split
  · exact ⟨Nat.pow_pos (by decide), Nat.one_pos⟩
  · exact ⟨Nat.one_pos, Nat.pow_pos (by decide)⟩

theorem powTen_value (s : Int) : ((powTen s).1 : ℚ) / (powTen s).2 = 10 ^ s := by
  unfold powTen
  split
  · next up =>
    obtain ⟨n, rfl⟩ := Int.eq_ofNat_of_zero_le up
    rw [Int.toNat_natCast, zpow_natCast]
    push_cast [show Nat.pow 10 n = 10 ^ n from rfl]
    ring
  · next down =>
    obtain ⟨n, rfl⟩ : ∃ n : Nat, s = -(n : Int) := ⟨(-s).toNat, by omega⟩
    rw [neg_neg, Int.toNat_natCast, zpow_neg, zpow_natCast]
    push_cast [show Nat.pow 10 n = 10 ^ n from rfl]
    rw [one_div]

/-! ## The interval of a double -/

theorem cross_le {a num den c p q : Nat} (den_pos : 0 < den) (q_pos : 0 < q) :
    a * num * q ≤ c * p * den ↔ (a : ℚ) * (num / den) ≤ c * (p / q) := by
  have hd : (0 : ℚ) < den := by exact_mod_cast den_pos
  have hq : (0 : ℚ) < q := by exact_mod_cast q_pos
  rw [← mul_div_assoc, ← mul_div_assoc, div_le_div_iff₀ hd hq]
  exact_mod_cast Iff.rfl

theorem cross_ge {a num den c p q : Nat} (den_pos : 0 < den) (q_pos : 0 < q) :
    c * p * den ≤ a * num * q ↔ (c : ℚ) * (p / q) ≤ a * (num / den) := by
  have hd : (0 : ℚ) < den := by exact_mod_cast den_pos
  have hq : (0 : ℚ) < q := by exact_mod_cast q_pos
  rw [← mul_div_assoc, ← mul_div_assoc, div_le_div_iff₀ hq hd]
  exact_mod_cast Iff.rfl

variable (x : FiniteDouble)

theorem interval_den_pos : 0 < x.interval.den := scaled_den_pos (by decide) 1 _

theorem interval_unit : (x.interval.num : ℚ) / x.interval.den = x.unit / 4 := by
  have value := scaled_value 1 1 (x.exponent - 2)
  rw [zpow_sub₀ (by norm_num)] at value
  norm_num at value
  exact value

variable {x}

theorem interval_low (positive : 0 < x.mantissa) : (x.interval.low : ℚ) = 4 * x.lowEnd := by
  have low : x.interval.low = 4 * x.mantissa - if x.isNarrow then 1 else 2 := rfl
  rw [low, lowEnd]
  split
  · push_cast [show 1 ≤ 4 * x.mantissa by omega]; ring
  · push_cast [show 2 ≤ 4 * x.mantissa by omega]; ring

variable (x) in
theorem interval_high : (x.interval.high : ℚ) = 4 * x.highEnd := by
  have high : x.interval.high = 4 * x.mantissa + 2 := rfl
  rw [high, highEnd]
  push_cast
  ring

/-- A value strictly between the ends is near. -/
theorem Near.between {v : ℚ} (low : x.lowEnd * x.unit < v) (high : v < x.highEnd * x.unit) :
    x.Near v :=
  ⟨low.le, high.le, .inr ⟨low, high⟩⟩

/-- The interval of a double holds exactly the values around it. -/
theorem holds_iff (positive : 0 < x.mantissa) (c : Nat) (s : Int) :
    x.interval.holds c s = true ↔ x.Near (c * 10 ^ s) := by
  have den_pos := x.interval_den_pos
  have q_pos := (powTen_pos s).2
  have low : (x.interval.low : ℚ) * (x.interval.num / x.interval.den) = x.lowEnd * x.unit := by
    rw [interval_low positive, interval_unit]; ring
  have high : (x.interval.high : ℚ) * (x.interval.num / x.interval.den) = x.highEnd * x.unit := by
    rw [interval_high, interval_unit]; ring
  have closed : x.interval.closed = true ↔ x.mantissa % 2 = 0 := by
    show (x.mantissa % 2 == 0) = true ↔ _
    simp
  unfold Interval.holds
  simp only
  split
  · next even =>
    rw [Bool.and_eq_true, decide_eq_true_iff, decide_eq_true_iff, cross_le den_pos q_pos,
      cross_ge den_pos q_pos, low, high, powTen_value]
    exact ⟨fun ⟨l, h⟩ => ⟨l, h, .inl (closed.mp even)⟩, fun near => ⟨near.low, near.high⟩⟩
  · next odd =>
    rw [Bool.and_eq_true, decide_eq_true_iff, decide_eq_true_iff, ← not_le, ← not_le,
      cross_ge den_pos q_pos, cross_le den_pos q_pos, low, high, powTen_value, not_le, not_le]
    exact ⟨fun ⟨l, h⟩ => .between l h,
      fun near => near.tie.resolve_left fun even => odd (closed.mpr even)⟩


/-! ## The leading digit -/

/-- A comparison of powers of ten and two, from a denominator `N` with `log₁₀ 2` between `a / N` and
`(a + 1) / N`. -/
theorem ten_zpow_le_two_zpow {N a : Nat} (N_pos : 0 < N) (below : 10 ^ a ≤ 2 ^ N)
    (above : 2 ^ N ≤ 10 ^ (a + 1)) {p k : Int} (le_up : 0 ≤ k → p * N ≤ a * k)
    (le_down : k < 0 → p * N ≤ (a + 1 : Nat) * k) : (10 : ℚ) ^ p ≤ 2 ^ k := by
  rw [← pow_le_pow_iff_left₀ (by positivity) (by positivity) N_pos.ne', ← zpow_natCast,
    ← zpow_natCast, ← zpow_mul, ← zpow_mul]
  rcases lt_or_ge k 0 with down | up
  · obtain ⟨n, rfl⟩ : ∃ n : Nat, k = -(n : Int) := ⟨(-k).toNat, by omega⟩
    calc (10 : ℚ) ^ (p * N) ≤ 10 ^ (((a + 1 : Nat) : Int) * -(n : Int)) :=
          zpow_le_zpow_right₀ (by norm_num) (le_down down)
      _ = ((10 ^ (a + 1)) ^ n)⁻¹ := by
          rw [mul_neg, zpow_neg, zpow_mul, zpow_natCast, zpow_natCast]
      _ ≤ ((2 ^ N) ^ n)⁻¹ := by
          gcongr
          exact_mod_cast above
      _ = 2 ^ (-(n : Int) * N) := by
          rw [neg_mul, zpow_neg, mul_comm, zpow_mul, zpow_natCast, zpow_natCast]
  · obtain ⟨n, rfl⟩ := Int.eq_ofNat_of_zero_le up
    calc (10 : ℚ) ^ (p * N) ≤ 10 ^ ((a : Int) * n) := zpow_le_zpow_right₀ (by norm_num) (le_up up)
      _ = (10 ^ a) ^ n := by rw [zpow_mul, zpow_natCast, zpow_natCast]
      _ ≤ (2 ^ N) ^ n := by
          gcongr
          exact_mod_cast below
      _ = 2 ^ ((n : Int) * N) := by rw [mul_comm, zpow_mul, zpow_natCast, zpow_natCast]

theorem ratio_value (x : FiniteDouble) : (x.ratio.1 : ℚ) / x.ratio.2 = x.magnitude := by
  rw [ratio, scaled_value, magnitude]
  norm_num

theorem ratio_den_pos (x : FiniteDouble) : 0 < x.ratio.2 := scaled_den_pos (by decide) _ _

theorem ratio_num_pos (positive : 0 < x.mantissa) : 0 < x.ratio.1 := by
  unfold ratio scaled
  split
  · exact Nat.mul_pos positive (Nat.pow_pos (by decide))
  · exact positive

theorem magnitude_lt (x : FiniteDouble) : x.magnitude < 2 ^ 53 * x.unit := by
  refine mul_lt_mul_of_pos_right ?_ x.unit_pos
  linarith [x.mantissa_add_one_le]

/-- The power of ten that is tried first is at most the magnitude. -/
theorem floorLogTen_le (positive : 0 < x.mantissa) : (10 : ℚ) ^ x.floorLogTen ≤ x.magnitude := by
  have den_pos := x.ratio_den_pos
  have bounds := floorLog_bounds (ratio_num_pos positive) den_pos
  rw [ratio_value] at bounds
  have reaches (p : Int) (reached : (powTen p).1 * x.ratio.2 ≤ x.ratio.1 * (powTen p).2) :
      (10 : ℚ) ^ p ≤ x.magnitude := by
    rw [← powTen_value, ← ratio_value]
    have q_pos : (0 : ℚ) < (powTen p).2 := by exact_mod_cast (powTen_pos p).2
    have d_pos : (0 : ℚ) < x.ratio.2 := by exact_mod_cast den_pos
    rw [div_le_div_iff₀ q_pos d_pos]
    exact_mod_cast reached
  unfold floorLogTen
  simp only [decide_eq_true_eq]
  split
  · next reached => exact reaches _ reached
  split
  · next reached => exact reaches _ reached
  -- the guess is at most one too great for all exponents of a double
  have small : floorLog x.ratio.1 x.ratio.2 ≤ 1023 := by
    have less := lt_of_le_of_lt bounds.1 x.magnitude_lt
    rw [two_pow_mul_unit] at less
    have := lt_of_two_zpow_lt less
    have := x.canonical.2.2.1
    omega
  refine le_trans ?_ bounds.1
  generalize floorLog x.ratio.1 x.ratio.2 = k at small
  exact ten_zpow_le_two_zpow (N := 100000) (a := 30102) (by decide) (by decide +kernel)
    (by decide +kernel) (by omega) (by omega)

/-! ## The grids -/

theorem holds_of_gridPoint? {i : Interval} {s : Int} {c : Nat} (found : gridPoint? i s = some c) :
    i.holds c s = true := by
  unfold gridPoint? at found
  simp only at found
  split at found
  · next first second =>
    obtain rfl := Option.some.inj found
    split
    · exact second
    · exact first
  · next first _ => exact Option.some.inj found ▸ first
  · next _ second => exact Option.some.inj found ▸ second
  · exact nomatch found

theorem gridPoint?_isSome {i : Interval} {s : Int} {n : Nat}
    (quotient : i.mid * i.num * (powTen s).2 / (i.den * (powTen s).1) = n)
    (either : i.holds n s = true ∨ i.holds (n + 1) s = true) : (gridPoint? i s).isSome = true := by
  unfold gridPoint?
  simp only [quotient]
  split <;> simp_all

/-- The quotient that a grid starts from is the grid point at or below the magnitude. -/
theorem below_bounds (x : FiniteDouble) (s : Int) {n : Nat}
    (quotient : x.interval.mid * x.interval.num * (powTen s).2 /
      (x.interval.den * (powTen s).1) = n) :
    (n : ℚ) * 10 ^ s ≤ x.magnitude ∧ x.magnitude < (n + 1) * 10 ^ s := by
  obtain ⟨p_pos, q_pos⟩ := powTen_pos s
  have d_pos : 0 < x.interval.den * (powTen s).1 := Nat.mul_pos x.interval_den_pos p_pos
  have atMost := (Nat.div_eq_iff d_pos).mp quotient
  have hden : (0 : ℚ) < x.interval.den := by exact_mod_cast x.interval_den_pos
  have hp : (0 : ℚ) < (powTen s).1 := by exact_mod_cast p_pos
  have hq : (0 : ℚ) < (powTen s).2 := by exact_mod_cast q_pos
  have mid : (x.interval.mid : ℚ) * (x.interval.num / x.interval.den) = x.magnitude := by
    have : (x.interval.mid : ℚ) = 4 * x.mantissa := by
      exact_mod_cast (rfl : x.interval.mid = 4 * x.mantissa)
    rw [this, interval_unit, magnitude, unit]
    ring
  have low : n * (powTen s).1 * x.interval.den ≤
      x.interval.mid * x.interval.num * (powTen s).2 := by
    calc _ = n * (x.interval.den * (powTen s).1) := by ring
      _ ≤ _ := atMost.1
  have high : ¬ (n + 1) * (powTen s).1 * x.interval.den ≤
      x.interval.mid * x.interval.num * (powTen s).2 := by
    have : (n + 1) * (powTen s).1 * x.interval.den =
      n * (x.interval.den * (powTen s).1) + x.interval.den * (powTen s).1 := by ring
    omega
  rw [cross_ge x.interval_den_pos q_pos, mid, powTen_value] at low high
  push_cast at high
  exact ⟨low, not_le.mp high⟩

/-- On a grid with seventeen digits one of the two neighbours of a double rounds to it. -/
theorem near_below_or_above {s : Int} (fine : 10 ^ 16 * 10 ^ s ≤ x.magnitude) {n : Nat}
    (low : (n : ℚ) * 10 ^ s ≤ x.magnitude) (high : x.magnitude < (n + 1) * 10 ^ s) :
    x.Near (n * 10 ^ s) ∨ x.Near ((n + 1) * 10 ^ s) := by
  have u := x.unit_pos
  have step_pos : (0 : ℚ) < 10 ^ s := by positivity
  have highEnd : x.highEnd * x.unit = x.magnitude + x.unit / 2 := by
    rw [FiniteDouble.highEnd, magnitude, unit]; ring
  by_cases narrow : x.isNarrow = true
  · -- half a unit away below, but the step is less than half a unit
    have lowEnd : x.lowEnd * x.unit = x.magnitude - x.unit / 4 := by
      rw [FiniteDouble.lowEnd, if_pos narrow, magnitude, unit]; ring
    have least : x.magnitude = 2 ^ 52 * x.unit := by
      have : x.mantissa = 2 ^ 52 := by
        rw [isNarrow, Bool.and_eq_true, beq_iff_eq] at narrow
        exact narrow.1
      rw [magnitude, unit, this]
      norm_num
    right
    apply Near.between
    · rw [lowEnd]; linarith
    · rw [highEnd]; linarith
  · have lowEnd : x.lowEnd * x.unit = x.magnitude - x.unit / 2 := by
      rw [FiniteDouble.lowEnd, if_neg narrow, magnitude, unit]; ring
    have less := x.magnitude_lt
    rcases lt_or_ge (x.magnitude - n * 10 ^ s) (x.unit / 2) with close | far
    · left
      apply Near.between
      · rw [lowEnd]; linarith
      · rw [highEnd]; linarith
    · right
      apply Near.between
      · rw [lowEnd]; linarith
      · rw [highEnd]; linarith

theorem gridPoint?_of_fine (positive : 0 < x.mantissa) {s : Int}
    (fine : 10 ^ 16 * 10 ^ s ≤ x.magnitude) : (gridPoint? x.interval s).isSome = true := by
  obtain ⟨low, high⟩ := x.below_bounds s rfl
  apply gridPoint?_isSome rfl
  rw [holds_iff positive, holds_iff positive]
  push_cast
  exact near_below_or_above fine low high

/-- A search that meets a grid with a point ends at a point. -/
theorem holds_searchGrid (i : Interval) {fuel : Nat} {s : Int} {j : Nat} (less : j < fuel)
    (found : (gridPoint? i (s - j)).isSome = true) :
    i.holds (searchGrid i s fuel).digits (searchGrid i s fuel).exponent = true := by
  induction fuel generalizing s j with
  | zero => exact absurd less (Nat.not_lt_zero j)
  | succ fuel ih =>
    unfold searchGrid
    cases here : gridPoint? i s with
    | some c => exact holds_of_gridPoint? here
    | none =>
      cases j with
      | zero => simp [here] at found
      | succ j =>
        refine ih (Nat.lt_of_succ_lt_succ less) ?_
        rwa [show s - 1 - (j : Int) = s - (j + 1 : Nat) by push_cast; ring]

end FiniteDouble

namespace Decimal

theorem trim_value (fuel : Nat) (d : Decimal) : (trim fuel d).value = d.value := by
  induction fuel generalizing d with
  | zero => rfl
  | succ fuel ih =>
    unfold trim
    split
    · next zero =>
      rw [ih]
      simp only [Bool.and_eq_true, bne_iff_ne, beq_iff_eq] at zero
      have parts : d.digits / 10 * 10 = d.digits :=
        Nat.div_mul_cancel (Nat.dvd_of_mod_eq_zero zero.2)
      unfold value
      rw [zpow_add₀ (by norm_num), zpow_one]
      simp only
      rw [mul_comm (10 ^ d.exponent) (10 : ℚ), ← mul_assoc]
      congr 1
      exact_mod_cast parts
    · rfl

end Decimal

namespace FiniteDouble

open Double

variable {x : FiniteDouble}

/-- The shortest decimal of a double rounds to it. -/
theorem near_shortest (positive : 0 < x.mantissa) : x.Near x.shortest.value := by
  have notZero : x.isZero = false := by
    rw [isZero, beq_eq_false_iff_ne]
    omega
  have fine : (10 : ℚ) ^ 16 * 10 ^ (x.floorLogTen - (16 : Nat)) ≤ x.magnitude := by
    rw [zpow_sub₀ (by norm_num), zpow_natCast, mul_div_cancel₀ _ (by norm_num)]
    exact floorLogTen_le positive
  have found : x.interval.holds (searchGrid x.interval x.floorLogTen 17).digits
      (searchGrid x.interval x.floorLogTen 17).exponent = true :=
    holds_searchGrid x.interval (by decide) (gridPoint?_of_fine positive fine)
  rw [shortest, notZero, if_neg Bool.false_ne_true, Decimal.trim_value, Decimal.value]
  exact (holds_iff positive _ _).mp found

end FiniteDouble

namespace Double

open FiniteDouble

variable {x : FiniteDouble}

/-! ## Reading a decimal -/

section Reading

variable {digits : Nat} {exponent : Int} (near : x.Near (digits * 10 ^ exponent))
include near

theorem exponent_le_of_near (digits_pos : 0 < digits) : exponent ≤ 400 := by
  by_contra huge
  have most : (digits : ℚ) * 10 ^ exponent < 2 ^ (1024 : Int) := by
    refine lt_of_lt_of_le near.lt_of_all_bits ?_
    rw [two_pow_mul_unit]
    have := x.canonical.2.2.1
    exact zpow_le_zpow_right₀ (by norm_num) (by omega)
  have one_le : (1 : ℚ) ≤ digits := by exact_mod_cast digits_pos
  have : (2 : ℚ) ^ (1024 : Int) ≤ digits * 10 ^ exponent := by
    calc (2 : ℚ) ^ (1024 : Int) ≤ 10 ^ (400 : Int) := by
          exact_mod_cast (by decide +kernel : 2 ^ 1024 ≤ 10 ^ 400)
      _ ≤ 10 ^ exponent := zpow_le_zpow_right₀ (by norm_num) (by omega)
      _ ≤ digits * 10 ^ exponent := le_mul_of_one_le_left (by positivity) one_le
  linarith

variable (positive : 0 < x.mantissa)
include positive

theorem least_le_of_near : (2 : ℚ) ^ (-1075 : Int) ≤ digits * 10 ^ exponent := by
  have half : (1 / 2 : ℚ) ≤ x.lowEnd := by
    have : (1 : ℚ) ≤ x.mantissa := by exact_mod_cast positive
    linarith [x.mantissa_sub_half_le_lowEnd]
  have u := x.unit_pos
  calc (2 : ℚ) ^ (-1075 : Int) = 1 / 2 * 2 ^ (-1074 : Int) := by
        rw [show (-1075 : Int) = -1074 - 1 by norm_num, zpow_sub_one₀ (by norm_num)]
        ring
    _ ≤ x.lowEnd * x.unit := by
        gcongr
        exact zpow_le_zpow_right₀ (by norm_num) x.canonical.2.1
    _ ≤ digits * 10 ^ exponent := near.low

theorem digits_pos_of_near : 0 < digits := by
  rcases Nat.eq_zero_or_pos digits with rfl | digits_pos
  · have least := least_le_of_near near positive
    rw [Nat.cast_zero, zero_mul] at least
    exact absurd least (not_le.mpr (by positivity))
  · exact digits_pos

theorem not_tiny_of_near :
    ¬ (exponent * 3 + (Nat.log2 digits : Int) < -1200 ∧ exponent < -400) := by
  rintro ⟨tiny, down⟩
  have digits_pos := digits_pos_of_near near positive
  have least := least_le_of_near near positive
  obtain ⟨n, rfl⟩ : ∃ n : Nat, exponent = -(n : Int) := ⟨(-exponent).toNat, by omega⟩
  have : (digits : ℚ) * 10 ^ (-(n : Int)) < 2 ^ (-1075 : Int) := by
    calc (digits : ℚ) * 10 ^ (-(n : Int))
        ≤ 2 ^ ((Nat.log2 digits : Int) + 1) * 2 ^ (-(3 * n : Int)) := by
          gcongr
          · exact (log2_bounds digits_pos).2.le
          · -- ten is more than the third power of two
            rw [zpow_neg, zpow_neg, zpow_natCast, zpow_mul, zpow_natCast]
            gcongr
            norm_num
      _ = 2 ^ ((Nat.log2 digits : Int) + 1 + -(3 * n : Int)) := (zpow_add₀ (by norm_num) _ _).symm
      _ < 2 ^ (-1075 : Int) := zpow_lt_zpow_right₀ (by norm_num) (by omega)
  linarith

/-- A decimal that is near to a double is rounded to it: the shortcuts for far exponents do not
apply. -/
theorem ofDecimal_of_near (negative : Bool) :
    ofDecimal negative digits exponent =
      .finite ⟨negative, x.mantissa, x.exponent, x.canonical⟩ := by
  have digits_pos := digits_pos_of_near near positive
  have notHuge : ¬ exponent > 400 := not_lt.mpr (exponent_le_of_near near digits_pos)
  have notTiny := not_tiny_of_near near positive
  unfold ofDecimal
  simp only
  rw [if_neg (by simpa using digits_pos.ne'), if_neg notHuge, if_neg (by simpa using notTiny)]
  split
  · next up =>
    obtain ⟨n, rfl⟩ := Int.eq_ofNat_of_zero_le up
    apply ofRatio_of_near (Nat.mul_pos digits_pos (Nat.pow_pos (by decide))) Nat.one_pos
    rw [zpow_natCast] at near
    simpa using near
  · next down =>
    obtain ⟨n, rfl⟩ : ∃ n : Nat, exponent = -(n : Int) := ⟨(-exponent).toNat, by omega⟩
    apply ofRatio_of_near digits_pos (Nat.pow_pos (by decide))
    rw [zpow_neg, zpow_natCast, ← div_eq_mul_inv] at near
    simpa using near

end Reading

/-- Every spelling of the shortest decimal of a double is rounded to that double. -/
theorem ofDecimal_shortest (x : FiniteDouble) {digits : Nat} {exponent : Int}
    (value : (digits : ℚ) * 10 ^ exponent = x.shortest.value) :
    ofDecimal x.negative digits exponent = .finite x := by
  rcases Nat.eq_zero_or_pos x.mantissa with zero | positive
  · have isZero : x.isZero = true := by rw [FiniteDouble.isZero, zero]; rfl
    rw [shortest, if_pos isZero, Decimal.value] at value
    have digits_zero : digits = 0 := by
      simpa [zpow_ne_zero] using value
    obtain ⟨negative, mantissa, least, canonical⟩ := x
    obtain rfl : mantissa = 0 := zero
    obtain rfl : least = -1074 := canonical.2.2.2.resolve_left (by decide)
    rw [ofDecimal, digits_zero]
    rfl
  · exact ofDecimal_of_near (value ▸ near_shortest positive) positive x.negative

end Double

end DesignGauge
