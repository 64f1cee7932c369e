import DesignGauge.Proofs.Number.Shortest

/-!
# Results that stay finite

Small ratios, sums of small doubles and every finite double rounded to two places are finite.

Results:
1. `exists_finite_of_le`: the double of a share is finite, with a small exponent.
2. `add_isFinite`: the sum of doubles below `2 ^ 53` is finite.
3. `roundHundredths_isFinite`: a finite double rounded to two places is finite.
-/

namespace DesignGauge.Double

open FiniteDouble

theorem isFinite_iff {x : Double} : x.isFinite = true ↔ ∃ value, x = .finite value := by
  cases x with
  | finite value => exact ⟨fun _ => ⟨value, rfl⟩, fun _ => rfl⟩
  | infinite negative => exact ⟨nofun, fun ⟨_, same⟩ => nomatch same⟩
  | nan => exact ⟨nofun, fun ⟨_, same⟩ => nomatch same⟩

/-- A share is rounded to a double of small exponent. -/
theorem exists_finite_of_le {num den : Nat} (le : num ≤ den) :
    ∃ x : FiniteDouble, ofQuotient num den = .finite x ∧ x.exponent ≤ 0 := by
  have share : (num : ℚ) / den ≤ 1 := div_le_one_of_le₀ (by exact_mod_cast le) (by positivity)
  obtain ⟨x, rounded, small⟩ := @exists_finite_of_lt false num den 1 (by decide) (by linarith)
  exact ⟨x, rounded, by push_cast at small; omega⟩

/-! ## Sums -/

/-- An exact value in the range is rounded to a finite double. -/
theorem ofDyadic_isFinite (negativeZero : Bool) {n e : Int}
    (less : |(n : ℚ)| * 2 ^ e < 2 ^ 1023) : (ofDyadic negativeZero n e).isFinite = true := by
  unfold ofDyadic
  split
  · rfl
  · refine isFinite_iff.mpr ?_
    obtain ⟨x, rounded, _⟩ := @exists_finite_of_lt (decide (n < 0)) (scaled n.natAbs 1 e).1
      (scaled n.natAbs 1 e).2 1023 (le_refl _) (by
        rw [scaled_value, Nat.cast_natAbs, Nat.cast_one, div_one, Int.cast_abs]
        exact less)
    exact ⟨x, rounded⟩

theorem abs_signed (x : FiniteDouble) : |(x.signed : ℚ)| * 2 ^ x.exponent = x.magnitude := by
  have same : |(x.signed : ℚ)| = x.mantissa := by
    unfold signed
    split
    · rw [Int.cast_neg, abs_neg, Int.cast_natCast, Nat.abs_cast]
    · rw [Int.cast_natCast, Nat.abs_cast]
  rw [same, magnitude]

/-- Bringing a double to a lower exponent keeps its value. -/
theorem aligned_value (x : FiniteDouble) {e : Int} (le : e ≤ x.exponent) :
    ((x.signed * Nat.pow 2 (x.exponent - e).toNat : Int) : ℚ) * 2 ^ e =
      x.signed * 2 ^ x.exponent := by
  obtain ⟨n, same⟩ : ∃ n : Nat, x.exponent = e + n := ⟨(x.exponent - e).toNat, by omega⟩
  have shift : (x.exponent - e).toNat = n := by omega
  rw [shift, same, two_zpow_add]
  push_cast [show Nat.pow 2 n = 2 ^ n from rfl]
  ring

theorem magnitude_lt_of_exponent {x : FiniteDouble} (small : x.exponent ≤ 0) :
    x.magnitude < 2 ^ 53 := by
  have unit_le : x.unit ≤ 1 := zpow_le_one_of_nonpos₀ (by norm_num) small
  linarith [x.magnitude_lt]

/-- The sum of two doubles of small exponent is finite. -/
theorem add_isFinite {x y : FiniteDouble} (hx : x.exponent ≤ 0) (hy : y.exponent ≤ 0) :
    (add (.finite x) (.finite y)).isFinite = true := by
  refine ofDyadic_isFinite _ ?_
  have left := abs_signed x
  have right := abs_signed y
  generalize he : min x.exponent y.exponent = e
  have lowX : e ≤ x.exponent := by omega
  have lowY : e ≤ y.exponent := by omega
  calc |((x.signed * Nat.pow 2 (x.exponent - e).toNat
          + y.signed * Nat.pow 2 (y.exponent - e).toNat : Int) : ℚ)| * 2 ^ e
      = |(x.signed : ℚ) * 2 ^ x.exponent + y.signed * 2 ^ y.exponent| := by
        rw [← aligned_value x lowX, ← aligned_value y lowY, ← add_mul, abs_mul,
          abs_of_pos (show (0 : ℚ) < 2 ^ e by positivity), ← Int.cast_add]
    _ ≤ |(x.signed : ℚ) * 2 ^ x.exponent| + |(y.signed : ℚ) * 2 ^ y.exponent| := abs_add_le _ _
    _ = x.magnitude + y.magnitude := by
        rw [abs_mul, abs_mul, abs_of_pos (show (0 : ℚ) < 2 ^ x.exponent by positivity),
          abs_of_pos (show (0 : ℚ) < 2 ^ y.exponent by positivity), left, right]
    _ < 2 ^ 53 + 2 ^ 53 := add_lt_add (magnitude_lt_of_exponent hx) (magnitude_lt_of_exponent hy)
    _ = 2 ^ 54 := by norm_num
    _ < 2 ^ 1023 := pow_lt_pow_right₀ (by norm_num) (by norm_num)

/-! ## Two places -/

theorem near_magnitude (x : FiniteDouble) : x.Near x.magnitude := by
  have low : x.lowEnd < x.mantissa := by
    unfold lowEnd
    split
    · linarith
    · linarith
  have high : (x.mantissa : ℚ) < x.highEnd := by
    unfold highEnd
    linarith
  have below := mul_lt_mul_of_pos_right low x.unit_pos
  have above := mul_lt_mul_of_pos_right high x.unit_pos
  exact ⟨below.le, above.le, .inr ⟨below, above⟩⟩

/-- The hundredths of a double below `2 ^ 53`. -/
theorem hundredths_le {x : FiniteDouble} (small : x.exponent ≤ 0) :
    x.hundredths ≤ 2 ^ 53 * 100 := by
  have den_pos : (0 : ℚ) < x.ratio.2 := by exact_mod_cast x.ratio_den_pos
  have less := magnitude_lt_of_exponent small
  rw [← x.ratio_value, div_lt_iff₀ den_pos] at less
  have num_le : x.ratio.1 ≤ 2 ^ 53 * x.ratio.2 := by exact_mod_cast less.le
  refine roundDiv_le x.ratio_den_pos ?_
  calc x.ratio.1 * 100 ≤ 2 ^ 53 * x.ratio.2 * 100 := Nat.mul_le_mul_right 100 num_le
    _ = 2 ^ 53 * 100 * x.ratio.2 := Nat.mul_right_comm ..

/-- The hundredths of a double that is a whole number. -/
theorem hundredths_of_whole {x : FiniteDouble} (whole : 0 ≤ x.exponent) :
    (x.hundredths : ℚ) / (100 : Nat) = x.magnitude := by
  have ratio : x.ratio = (x.mantissa * Nat.pow 2 x.exponent.toNat, 1) := if_pos whole
  have exact : x.hundredths = x.ratio.1 * 100 := by
    unfold hundredths
    rw [ratio]
    simp [roundDiv, Nat.mod_one]
  rw [exact, ← x.ratio_value, ratio]
  push_cast
  ring

/-- A finite double rounded to two places is finite. -/
theorem roundHundredths_isFinite {x : Double} (finite : x.isFinite = true) :
    x.roundHundredths.isFinite = true := by
  obtain ⟨x, rfl⟩ := isFinite_iff.mp finite
  refine isFinite_iff.mpr ?_
  by_cases small : x.exponent ≤ 0
  · -- the hundredths are far from the end of the range
    have bound : (x.hundredths : ℚ) / (100 : Nat) < 2 ^ 54 := by
      rw [div_lt_iff₀ (by norm_num)]
      have le : (x.hundredths : ℚ) ≤ 2 ^ 53 * 100 := by exact_mod_cast hundredths_le small
      norm_num at le ⊢
      linarith
    obtain ⟨y, rounded, _⟩ := exists_finite_of_lt x.negative (by decide) bound
    exact ⟨y, rounded⟩
  · -- a whole number is its own rounding
    have whole : 0 ≤ x.exponent := by omega
    have value := hundredths_of_whole whole
    have bits : Nat.pow 2 52 ≤ x.mantissa := x.canonical.2.2.2.resolve_right (by omega)
    have positive : 0 < x.magnitude :=
      mul_pos (by exact_mod_cast Nat.lt_of_lt_of_le (by decide) bits) x.unit_pos
    have num_pos : 0 < x.hundredths := by
      refine Nat.pos_of_ne_zero fun zero => ?_
      rw [zero, Nat.cast_zero, zero_div] at value
      linarith
    have near := near_magnitude x
    rw [← value] at near
    exact ⟨_, ofRatio_of_near num_pos (by decide) near x.negative⟩

end DesignGauge.Double
