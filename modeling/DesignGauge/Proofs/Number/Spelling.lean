import DesignGauge.Number.Reading
import DesignGauge.Proofs.Number.Shortest

/-!
# Spelled numbers

The text of a decimal is a numeral: digits without leading zeros, a fraction, an exponent. Each
layout of a decimal is a numeral of the same value, so that reading it back only has to be shown for
numerals.

Results:
1. `natOf_digitChars`, `natOf_append`: digits and the naturals they spell.
2. `Decimal.exists_numeral`: the text of a decimal in any layout is a numeral of its value, and not
   that of an integer.
-/

namespace DesignGauge

open Text

namespace Reading

/-! ## Digits -/

theorem natOf_append (front back : List Char) :
    natOf (front ++ back) = natOf front * 10 ^ back.length + natOf back := by
  show Nat.ofDigitChars 10 (front ++ back) 0 = _
  rw [Nat.ofDigitChars_append, Nat.ofDigitChars_eq_ofDigitChars_zero, Nat.mul_comm]
  rfl

theorem natOf_replicate_zero (n : Nat) : natOf (List.replicate n '0') = 0 := by
  induction n with
  | zero => rfl
  | succ n ih =>
    rw [List.replicate_succ, ← List.singleton_append, natOf_append, ih]
    simp [natOf]

theorem natOf_digitChars (n : Nat) : natOf (digitChars n) = n := Nat.ofDigitChars_ten_toDigits

theorem natOf_padZeros (width : Nat) (digits : List Char) :
    natOf (padZeros width digits) = natOf digits := by
  rw [padZeros, natOf_append, natOf_replicate_zero, Nat.zero_mul, Nat.zero_add]

end Reading

open Reading

/-- A text of basic digits only. -/
def AllDigits (text : List Char) : Prop := ∀ c ∈ text, isAsciiDigit c = true

theorem AllDigits.append {front back : List Char} (first : AllDigits front)
    (second : AllDigits back) : AllDigits (front ++ back) :=
  fun c member => (List.mem_append.mp member).elim (first c) (second c)

theorem allDigits_zeros (n : Nat) : AllDigits (List.replicate n '0') := by
  intro c member
  rw [List.eq_of_mem_replicate member]
  rfl

theorem allDigits_digitChars (n : Nat) : AllDigits (digitChars n) := by
  intro c member
  have digit := Nat.isDigit_of_mem_toDigits (by decide) (by decide) member
  rw [Char.isDigit, Bool.and_eq_true, decide_eq_true_eq, decide_eq_true_eq] at digit
  rw [isAsciiDigit, Bool.and_eq_true, decide_eq_true_eq, decide_eq_true_eq]
  exact digit

theorem AllDigits.padZeros {digits : List Char} (all : AllDigits digits) (width : Nat) :
    AllDigits (padZeros width digits) :=
  (allDigits_zeros _).append all

/-- What some digits spell is less than the power of ten of their number. -/
theorem AllDigits.natOf_lt {digits : List Char} (all : AllDigits digits) :
    natOf digits < 10 ^ digits.length := by
  induction digits using List.reverseRecOn with
  | nil => exact Nat.one_pos
  | append_singleton front c ih =>
    have small : natOf [c] < 10 := by
      have digit := all c (List.mem_append_right _ List.mem_cons_self)
      rw [isAsciiDigit, Bool.and_eq_true, decide_eq_true_eq, decide_eq_true_eq] at digit
      have high : c.toNat ≤ '9'.toNat := UInt32.le_iff_toNat_le.mp digit.2
      have low : '0'.toNat ≤ c.toNat := UInt32.le_iff_toNat_le.mp digit.1
      show 10 * 0 + (c.toNat - '0'.toNat) < 10
      have bounds : '0'.toNat = 48 ∧ '9'.toNat = 57 := by decide
      omega
    have before := ih fun d member => all d (List.mem_append_left _ member)
    rw [natOf_append, List.length_append, List.length_singleton, Nat.pow_one, Nat.pow_succ]
    omega

theorem AllDigits.natOf_lt_pow {digits : List Char} (all : AllDigits digits) {limit : Nat}
    (short : digits.length ≤ limit) : natOf digits < Nat.pow 10 limit :=
  all.natOf_lt.trans_le (Nat.pow_le_pow_right (by decide) short)

theorem digitChars_ne_nil (n : Nat) : digitChars n ≠ [] := Nat.toDigits_ne_nil

/-- The first digit of a positive natural is not a zero. -/
theorem head_digitChars {n : Nat} (positive : 0 < n) : (digitChars n).head? ≠ some '0' := by
  induction n using Nat.strongRecOn with
  | ind n ih =>
    unfold digitChars
    rcases Nat.lt_or_ge n 10 with small | large
    · rw [Nat.toDigits_of_lt_base small]
      have least : ∀ n < 10, 0 < n → [n.digitChar].head? ≠ some '0' := by decide
      exact least n small positive
    · rw [Nat.toDigits_of_base_le (by decide) large,
        List.head?_append_of_ne_nil _ Nat.toDigits_ne_nil]
      exact ih (n / 10) (by omega) (by omega)

/-! ## Numerals -/

/-- A number without its sign as it is spelled: digits without leading zeros, a fraction that may be
empty, and an exponent with its sign that may be absent. -/
structure Numeral where
  whole : List Char
  fraction : List Char
  exponent : Option (Bool × List Char)
  whole_digits : AllDigits whole
  whole_leading : whole = ['0'] ∨ ∃ c rest, whole = c :: rest ∧ c ≠ '0'
  fraction_digits : AllDigits fraction
  exponent_digits : ∀ e ∈ exponent, e.2 ≠ [] ∧ AllDigits e.2

namespace Numeral

/-- A fraction behind its point; no point stands alone. -/
def pointed : List Char → List Char
  | [] => []
  | c :: rest => '.' :: c :: rest

/-- The mark, the sign and the digits of the exponent. -/
def exponentText (n : Numeral) : List Char :=
  match n.exponent with
  | none => []
  | some (negative, digits) => 'e' :: (if negative then '-' else '+') :: digits

/-- The characters of a numeral. -/
def text (n : Numeral) : List Char := n.whole ++ (pointed n.fraction ++ n.exponentText)

/-- The value of the exponent part. -/
def power (n : Numeral) : Int :=
  match n.exponent with
  | none => 0
  | some (negative, digits) => if negative then -(natOf digits : Int) else natOf digits

/-- The value of a numeral. -/
def value (n : Numeral) : ℚ :=
  natOf (n.whole ++ n.fraction) * 10 ^ (n.power - n.fraction.length)

/-- A numeral of digits only. -/
def IsInteger (n : Numeral) : Prop := n.fraction = [] ∧ n.exponent = none

theorem pointed_of_ne_nil {fraction : List Char} (some : fraction ≠ []) :
    pointed fraction = '.' :: fraction := by
  cases fraction with
  | nil => exact absurd rfl some
  | cons c rest => rfl

theorem whole_ne_nil (n : Numeral) : n.whole ≠ [] := by
  rcases n.whole_leading with zero | ⟨c, rest, first, _⟩
  · rw [zero]; exact List.cons_ne_nil _ _
  · rw [first]; exact List.cons_ne_nil _ _

end Numeral

/-- The digits of a natural have no leading zero. -/
theorem digitChars_leading (n : Nat) :
    digitChars n = ['0'] ∨ ∃ c rest, digitChars n = c :: rest ∧ c ≠ '0' := by
  rcases Nat.eq_zero_or_pos n with rfl | positive
  · exact .inl rfl
  · cases digits : digitChars n with
    | nil => exact absurd digits (digitChars_ne_nil n)
    | cons c rest =>
      exact .inr ⟨c, rest, rfl, fun zero => head_digitChars positive (by rw [digits, zero]; rfl)⟩

/-- The numeral of a natural. -/
def Numeral.ofNat (n : Nat) : Numeral where
  whole := digitChars n
  fraction := []
  exponent := none
  whole_digits := allDigits_digitChars n
  whole_leading := digitChars_leading n
  fraction_digits := nofun
  exponent_digits := nofun

/-! ## Layouts of a decimal -/

namespace Decimal

theorem length_padZeros (width : Nat) (digits : List Char) :
    (padZeros width digits).length = max width digits.length := by
  rw [padZeros, List.length_append, List.length_replicate]
  omega

variable {d : Decimal}

/-- Zeros behind the digits and an empty fraction. -/
theorem exists_numeral_of_nonneg (zero : d.digits = 0 → d.exponent = 0) (up : 0 ≤ d.exponent) :
    ∃ n : Numeral, n.text = d.positional ∧ n.value = d.value ∧ ¬ n.IsInteger := by
  obtain ⟨e, exponent⟩ := Int.eq_ofNat_of_zero_le up
  have leading : digitChars d.digits ++ List.replicate e '0' = ['0'] ∨
      ∃ c rest, digitChars d.digits ++ List.replicate e '0' = c :: rest ∧ c ≠ '0' := by
    rcases Nat.eq_zero_or_pos d.digits with none | some
    · have := zero none
      obtain rfl : e = 0 := by omega
      rw [none]
      exact .inl rfl
    · obtain least | ⟨c, rest, digits, other⟩ := digitChars_leading d.digits
      · exact absurd (congrArg List.head? least) (head_digitChars some)
      · exact .inr ⟨c, rest ++ List.replicate e '0', by rw [digits, List.cons_append], other⟩
  refine ⟨⟨digitChars d.digits ++ List.replicate e '0', ['0'], none,
    (allDigits_digitChars _).append (allDigits_zeros e), leading, allDigits_zeros 1, nofun⟩,
    ?_, ?_, fun integer => nomatch integer.1⟩
  · rw [positional, exponent, if_pos (Int.natCast_nonneg e), Int.toNat_natCast]
    rfl
  · show (natOf (digitChars d.digits ++ List.replicate e '0' ++ ['0']) : ℚ) * 10 ^ (0 - 1 : Int) = _
    rw [value, exponent, natOf_append, natOf_append, natOf_digitChars, natOf_replicate_zero,
      List.length_replicate, zpow_natCast]
    simp [natOf]

/-- Digits before the point, when zeros are put in front so that there is one. -/
theorem take_padZeros_leading {n places : Nat} (some : 0 < places) :
    let padded := padZeros (places + 1) (digitChars n)
    padded.take (padded.length - places) = ['0'] ∨
      ∃ c rest, padded.take (padded.length - places) = c :: rest ∧ c ≠ '0' := by
  intro padded
  have length : padded.length = max (places + 1) (digitChars n).length := length_padZeros _ _
  rcases Nat.lt_or_ge places (digitChars n).length with long | short
  · -- no zeros are needed
    have same : padded = digitChars n := by
      simp only [padded, padZeros, Nat.sub_eq_zero_of_le long]
      rfl
    obtain least | ⟨c, rest, digits, other⟩ := digitChars_leading n
    · rw [least] at long
      simp only [List.length_singleton] at long
      omega
    · obtain ⟨k, count⟩ : ∃ k, padded.length - places = k + 1 :=
        ⟨padded.length - places - 1, by omega⟩
      exact .inr ⟨c, rest.take k, by rw [count, same, digits, List.take_succ_cons], other⟩
  · obtain ⟨k, count⟩ : ∃ k, places + 1 - (digitChars n).length = k + 1 :=
      ⟨places - (digitChars n).length, by omega⟩
    left
    rw [show padded.length - places = 1 by omega]
    simp only [padded, padZeros, count, List.replicate_succ, List.cons_append, List.take_succ_cons,
      List.take_zero]

/-- Positional notation of a decimal with decimal places. -/
theorem exists_numeral_of_neg (down : ¬ 0 ≤ d.exponent) :
    ∃ n : Numeral, n.text = d.positional ∧ n.value = d.value ∧ ¬ n.IsInteger := by
  obtain ⟨places, exponent⟩ : ∃ places : Nat, d.exponent = -(places : Int) :=
    ⟨(-d.exponent).toNat, by omega⟩
  have some : 0 < places := by omega
  have leading := take_padZeros_leading (n := d.digits) some
  simp only at leading
  have text : d.positional =
      (padZeros (places + 1) (digitChars d.digits)).take
        ((padZeros (places + 1) (digitChars d.digits)).length - places) ++
      '.' :: (padZeros (places + 1) (digitChars d.digits)).drop
        ((padZeros (places + 1) (digitChars d.digits)).length - places) := by
    rw [positional, exponent, if_neg (by omega), neg_neg, Int.toNat_natCast]
  have all := (allDigits_digitChars d.digits).padZeros (places + 1)
  have spelled : natOf (padZeros (places + 1) (digitChars d.digits)) = d.digits := by
    rw [natOf_padZeros, natOf_digitChars]
  have length := length_padZeros (places + 1) (digitChars d.digits)
  generalize padZeros (places + 1) (digitChars d.digits) = padded at *
  have behind : (padded.drop (padded.length - places)).length = places := by
    rw [List.length_drop]
    omega
  have fraction_ne_nil : padded.drop (padded.length - places) ≠ [] :=
    List.ne_nil_of_length_pos (by omega)
  refine ⟨⟨padded.take (padded.length - places), padded.drop (padded.length - places), none,
    fun c member => all c (List.mem_of_mem_take member), leading,
    fun c member => all c (List.mem_of_mem_drop member), nofun⟩,
    ?_, ?_, fun integer => fraction_ne_nil integer.1⟩
  · rw [text, Numeral.text, Numeral.pointed_of_ne_nil fraction_ne_nil]
    simp [Numeral.exponentText]
  · rw [Numeral.value, List.take_append_drop, spelled, behind, value, exponent]
    simp [Numeral.power]

/-- A digit, a fraction and an exponent with its sign. -/
theorem exists_numeral_marked {c : Char} {fraction : List Char} (all : AllDigits (c :: fraction))
    (other : c ≠ '0') (leading : Int) (width : Nat) :
    ∃ n : Numeral,
      n.text = c :: (Numeral.pointed fraction ++
          'e' :: (if leading < 0 then '-' else '+') ::
            padZeros width (digitChars leading.natAbs)) ∧
      n.value = natOf (c :: fraction) * 10 ^ (leading - fraction.length) ∧ ¬ n.IsInteger := by
  have mark_ne_nil : padZeros width (digitChars leading.natAbs) ≠ [] :=
    List.append_ne_nil_of_right_ne_nil _ (digitChars_ne_nil _)
  have mark_digits : ∀ e ∈ some (decide (leading < 0), padZeros width (digitChars leading.natAbs)),
      e.2 ≠ [] ∧ AllDigits e.2 := by
    rintro e ⟨⟩
    exact ⟨mark_ne_nil, (allDigits_digitChars _).padZeros width⟩
  have first : AllDigits [c] := fun e member => all e (List.mem_singleton.mp member ▸ .head _)
  refine ⟨⟨[c], fraction, _, first, .inr ⟨c, [], rfl, other⟩,
    fun e member => all e (.tail c member), mark_digits⟩, ?_, ?_, fun integer => nomatch integer.2⟩
  · simp only [Numeral.text, Numeral.exponentText, decide_eq_true_eq,
      List.singleton_append]
  · have power : (if leading < 0 then -(natOf (padZeros width (digitChars leading.natAbs)) : Int)
        else natOf (padZeros width (digitChars leading.natAbs))) = leading := by
      rw [natOf_padZeros, natOf_digitChars]
      split <;> omega
    simp only [Numeral.value, Numeral.power, decide_eq_true_eq, power, List.singleton_append]

/-- Exponent notation of a decimal other than zero. -/
theorem exists_numeral_scientific (layout : Layout) (some : d.digits ≠ 0) :
    ∃ n : Numeral, n.text = d.scientific layout ∧ n.value = d.value ∧ ¬ n.IsInteger := by
  obtain least | ⟨c, rest, digits, other⟩ := digitChars_leading d.digits
  · exact absurd (congrArg List.head? least) (head_digitChars (Nat.pos_of_ne_zero some))
  have all := allDigits_digitChars d.digits
  have spelled := natOf_digitChars d.digits
  rw [digits] at all spelled
  have leading : d.leading = d.exponent + rest.length := by
    rw [Decimal.leading, digits, List.length_cons]
    push_cast
    ring
  by_cases short : rest = [] ∧ layout.pointBeforeExponent = true
  · -- the fraction is a zero that only makes room for the point
    obtain ⟨rfl, point⟩ := short
    have padded : AllDigits [c, '0'] := all.append (allDigits_zeros 1)
    obtain ⟨n, text, value, notInteger⟩ :=
      exists_numeral_marked padded other d.leading layout.exponentDigits
    refine ⟨n, ?_, ?_, notInteger⟩
    · rw [text, scientific, digits]
      simp [Numeral.pointed, point]
    · rw [value, ← List.singleton_append, natOf_append, spelled, Decimal.value,
        leading, zpow_sub₀ (by norm_num), show natOf ['0'] = 0 from rfl]
      push_cast [List.length_nil, List.length_singleton]
      rw [add_zero, add_zero]
      ring
  · obtain ⟨n, text, value, notInteger⟩ :=
      exists_numeral_marked all other d.leading layout.exponentDigits
    refine ⟨n, ?_, ?_, notInteger⟩
    · rw [text, scientific, digits]
      cases rest with
      | nil => simp [Numeral.pointed, Bool.eq_false_iff.mpr fun point => short ⟨rfl, point⟩]
      | cons r rest => simp [Numeral.pointed]
    · rw [value, spelled, Decimal.value, leading, add_sub_cancel_right]

/-- The text of a decimal in any layout is a numeral of its value, and not that of an integer. -/
theorem exists_numeral (layout : Layout) (zero : d.digits = 0 → d.exponent = 0) :
    ∃ n : Numeral, n.text = d.render layout ∧ n.value = d.value ∧ ¬ n.IsInteger := by
  unfold render
  split
  · by_cases up : 0 ≤ d.exponent
    · exact exists_numeral_of_nonneg zero up
    · exact exists_numeral_of_neg up
  · next marked =>
    refine exists_numeral_scientific layout fun none => marked ?_
    rw [none]
    rfl

end Decimal

end DesignGauge
