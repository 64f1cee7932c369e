import DesignGauge.Proofs.Number.Rounding

/-!
# Integers that have a double

The greatest finite double is `(2 ^ 53 - 1) * 2 ^ 971`. An integer above it is still rounded down to
it while it is nearer to it than to `2 ^ 1024`; half way, the even mantissa is the one beyond the
range. So the integers that have a double are those below `2 ^ 1024 - 2 ^ 970` in magnitude.

Results:
1. `roundDiv_lt`, `mantissaOf_carried`: when the last mantissa is rounded up.
2. `ofRatio_finite_iff`: which naturals are rounded to a finite double.
3. `ofInt?_isSome_iff`: which integers have a double.
-/

namespace DesignGauge.Double

/-- The least natural that is rounded beyond the range. -/
def overflowBound : Nat := 2 ^ 1024 - 2 ^ 970

/-- The powers of two around the greatest doubles, by their distance. -/
theorem powers_of_range : 2 ^ 971 = 2 * 2 ^ 970 ∧ 2 ^ 1023 = 2 ^ 52 * 2 ^ 971 ∧
    2 ^ 1024 = 2 ^ 53 * 2 ^ 971 := by
  refine ⟨?_, ?_, ?_⟩
  · rw [← Nat.pow_succ']
  · rw [← Nat.pow_add]
  · rw [← Nat.pow_add]

theorem overflowBound_eq : overflowBound = (2 ^ 53 - 1) * 2 ^ 971 + 2 ^ 970 := by
  obtain ⟨half, _, last⟩ := powers_of_range
  unfold overflowBound
  rw [last]
  omega

/-- A quotient is rounded to less than a natural if it is less than a half below it. -/
theorem roundDiv_lt {num den bound : Nat} (less : 2 * num + den < 2 * bound * den) :
    roundDiv num den < bound := by
  have parts := Nat.div_add_mod num den
  unfold roundDiv
  simp only
  generalize num / den = q at *
  generalize num % den = r at *
  subst parts
  have floor : q < bound := by
    by_contra atLeast
    have : bound * den ≤ q * den := Nat.mul_le_mul_right den (by omega)
    nlinarith
  split
  · next up =>
    have half : den ≤ 2 * r := by
      simp only [Bool.or_eq_true, decide_eq_true_eq, Bool.and_eq_true, beq_iff_eq] at up
      omega
    by_contra atLeast
    obtain rfl : bound = q + 1 := by omega
    nlinarith
  · exact floor

theorem pack_of_high (negative : Bool) (mantissa : Nat) {exponent : Int} (high : 971 < exponent) :
    pack negative mantissa exponent = .infinite negative := by
  refine dif_neg fun canonical => ?_
  exact absurd canonical.2.2.1 (not_le.mpr high)

section Natural

variable {n : Nat}

theorem exponentOf_of_lt (less : n < 2 ^ 1024) (large : 2 ^ 1023 ≤ n) :
    exponentOf n 1 = (971 : Nat) := by
  have positive : 0 < n := lt_of_lt_of_le (Nat.two_pow_pos _) large
  have log : floorLog n 1 = 1023 := by
    refine floorLog_eq positive Nat.one_pos ?_ ?_
    · rw [Nat.cast_one, div_one]
      exact_mod_cast large
    · rw [Nat.cast_one, div_one, show (1023 + 1 : Int) = (1024 : Nat) from rfl, zpow_natCast]
      exact_mod_cast less
  unfold exponentOf
  omega

theorem scaled_down {k : Nat} (positive : 0 < k) : scaled n 1 (-k) = (n, 2 ^ k) := by
  rw [scaled, if_neg (by omega), Nat.one_mul, neg_neg, Int.toNat_natCast]
  rfl

/-- Among the last naturals of the range those from the bound on are rounded up. -/
theorem mantissaOf_carried (less : n < 2 ^ 1024) (large : 2 ^ 1023 ≤ n) :
    mantissaOf n 1 = 2 ^ 53 ↔ overflowBound ≤ n := by
  obtain ⟨half, _, last⟩ := powers_of_range
  unfold mantissaOf
  rw [exponentOf_of_lt less large, scaled_down (by decide), overflowBound_eq]
  rw [last] at less
  rw [half] at less ⊢
  generalize 2 ^ 970 = unit at *
  constructor
  · intro carried
    by_contra below
    refine absurd carried (Nat.ne_of_lt (roundDiv_lt ?_))
    omega
  · intro reaches
    refine roundDiv_eq (by omega) ?_ ?_ (.inl (by decide))
    · omega
    · omega

theorem exponentOf_of_le (beyond : 2 ^ 1024 ≤ n) : 971 < exponentOf n 1 := by
  have positive : 0 < n := lt_of_lt_of_le (Nat.two_pow_pos _) beyond
  have reaches : ((2 : ℚ) ^ (1024 : Int)) ≤ n / (1 : Nat) := by
    rw [Nat.cast_one, div_one]
    exact_mod_cast beyond
  have log := lt_of_two_zpow_lt (lt_of_le_of_lt reaches (floorLog_bounds positive Nat.one_pos).2)
  unfold exponentOf
  omega

/-- A natural is rounded to a finite double exactly below the bound. -/
theorem ofRatio_finite_iff (negative : Bool) (n : Nat) :
    (∃ x, ofRatio negative n 1 = .finite x) ↔ n < overflowBound := by
  obtain ⟨half, next, last⟩ := powers_of_range
  have bound := overflowBound_eq
  rcases Nat.lt_or_ge n (2 ^ 1023) with small | large
  · have below : n < overflowBound := by omega
    have less : (n : ℚ) / (1 : Nat) < 2 ^ 1023 := by
      rw [Nat.cast_one, div_one]
      exact_mod_cast small
    obtain ⟨x, rounded, _⟩ := exists_finite_of_lt negative (le_refl 1023) less
    exact ⟨fun _ => below, fun _ => ⟨x, rounded⟩⟩
  have positive : 0 < n := lt_of_lt_of_le (Nat.two_pow_pos _) large
  rw [ofRatio_of_pos negative positive Nat.one_pos]
  rcases Nat.lt_or_ge n (2 ^ 1024) with less | beyond
  · have exponent := exponentOf_of_lt less large
    rw [exponent, ← not_le, ← mantissaOf_carried less large]
    split
    · next carried =>
      rw [pack_of_high negative _ (by decide)]
      simp [carried]
    · next notCarried =>
      have canonical : Canonical (mantissaOf n 1) (971 : Nat) :=
        ⟨lt_of_le_of_ne (mantissaOf_le positive Nat.one_pos) notCarried, by decide, by decide,
          exponent ▸ mantissaOf_full positive Nat.one_pos⟩
      exact ⟨fun _ => notCarried, fun _ => ⟨_, pack_of_canonical negative canonical⟩⟩
  · have high := exponentOf_of_le beyond
    have outside : ¬ n < overflowBound := by omega
    rw [pack_of_high negative _ high, pack_of_high negative _ (high.trans (Int.lt_succ _)),
      ite_self]
    simp [outside]

end Natural

/-- An integer has a double exactly if its magnitude is below the bound. -/
theorem ofInt?_isSome_iff {i : Int} : (ofInt? i).isSome = true ↔ i.natAbs < overflowBound := by
  rw [← ofRatio_finite_iff (decide (i < 0)), ofInt?]
  cases ofRatio (decide (i < 0)) i.natAbs 1 with
  | finite value => simp
  | infinite negative => simp
  | nan => simp

end DesignGauge.Double
