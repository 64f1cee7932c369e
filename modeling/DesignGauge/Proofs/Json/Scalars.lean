import DesignGauge.Json.File
import DesignGauge.Proofs.Number.Spelling
import DesignGauge.Proofs.Text.Surrogate

/-!
# Strings and numbers of JSON read back

A written string is read to its characters whatever follows it. A written number is read up to the
first character that cannot continue it, so it reads back in front of whatever may follow a value.

Results:
1. `readString_escaped`: an escaped text up to its closing quote is read to that text.
2. `readNumber_of_integer`, `readNumber_of_decimal`: a numeral with its sign is read to an integer
   or to the double nearest to its value.
3. `readNumber_int`, `readNumber_float`: integers of 64 bits and finite doubles read back.
-/

namespace DesignGauge.Json

open Text Reading

/-! ## Strings -/

section Strings

variable (dialect : Dialect) (start : Nat) (acc : List Char)

/-- Characters that an escape has taken are passed over. -/
theorem readString_drop (skip : Nat) (text : List Char) :
    readString dialect start acc skip text = readString dialect start acc 0 (text.drop skip) := by
  induction text generalizing skip with
  | nil => rw [List.drop_nil, readString, readString]
  | cons c rest ih =>
    cases skip with
    | zero => rfl
    | succ skip => rw [readString, ih, List.drop_succ_cons]

theorem readString_skip (front rest : List Char) :
    readString dialect start acc front.length (front ++ rest) =
      readString dialect start acc 0 rest := by
  rw [readString_drop, List.drop_left]

theorem readString_short {e char : Char} (other : e ≠ 'u') (short : shortEscape? e = some char)
    (rest : List Char) :
    readString dialect start acc 0 ('\\' :: e :: rest) =
      readString dialect start (char :: acc) 0 rest := by
  rw [readString.eq_5 dialect start acc '\\' e rest other, if_neg (by decide),
    if_pos (by decide), short]
  exact readString_skip dialect start (char :: acc) [e] rest

theorem readString_quote (rest : List Char) :
    readString dialect start acc 0 ('"' :: rest) = .ok (String.ofList acc.reverse, rest) := by
  rw [readString.eq_def]
  rfl

theorem readString_plain {c : Char} (notQuote : c ≠ '"') (notEscape : c ≠ '\\')
    (notControl : ¬ c.toNat < 0x20) (rest : List Char) :
    readString dialect start acc 0 (c :: rest) = readString dialect start (c :: acc) 0 rest := by
  rw [readString.eq_def]
  simp only
  rw [if_neg (by simpa using notQuote), if_neg (by simpa using notEscape), if_neg notControl]

theorem hexFour?_hexDigits : ∀ n < 32, (hexDigits 4 n).length = 4 ∧
    hexFour? (hexDigits 4 n) = some n := by
  decide

theorem hexFour?_append {digits : List Char} (four : digits.length = 4) (rest : List Char) :
    hexFour? (digits ++ rest) = hexFour? digits := by
  match digits, four with
  | [_, _, _, _], _ => rfl

theorem unicodeEscape_control {n : Nat} (control : n < 32) {rest : List Char} (more : rest ≠ []) :
    unicodeEscape dialect (hexDigits 4 n ++ rest) = .ok (n, 4) := by
  obtain ⟨four, value⟩ := hexFour?_hexDigits n control
  have number : escapeNumber (hexDigits 4 n ++ rest) = .ok n := by
    obtain ⟨c, rest, rfl⟩ := List.exists_cons_of_ne_nil more
    have after : (hexDigits 4 n ++ c :: rest).drop 4 = c :: rest := List.drop_left' four
    rw [escapeNumber, hexFour?_append four, value, after]
  rw [unicodeEscape, number]
  simp only [bind, Except.bind]
  rw [if_neg (by simp; omega), if_neg (by simp; omega)]
  rfl

/-- An escaped character is read to that character, when the string is not over. -/
theorem readString_escapedChar (c : Char) {rest : List Char} (more : rest ≠ []) :
    readString dialect start acc 0 (escapedChar c ++ rest) =
      readString dialect start (c :: acc) 0 rest := by
  unfold escapedChar
  split
  · next quoted =>
    rw [Bool.or_eq_true, beq_iff_eq, beq_iff_eq] at quoted
    rcases quoted with rfl | rfl
    · exact readString_short dialect start acc (by decide) rfl rest
    · exact readString_short dialect start acc (by decide) rfl rest
  split
  · next line =>
    obtain rfl := beq_iff_eq.mp line
    exact readString_short dialect start acc (by decide) rfl rest
  split
  · next turn =>
    obtain rfl := beq_iff_eq.mp turn
    exact readString_short dialect start acc (by decide) rfl rest
  split
  · next tab =>
    obtain rfl := beq_iff_eq.mp tab
    exact readString_short dialect start acc (by decide) rfl rest
  split
  · next eight =>
    obtain rfl : c = Char.ofNat 8 := by rw [← beq_iff_eq.mp eight, Char.ofNat_toNat]
    exact readString_short dialect start acc (by decide) rfl rest
  split
  · next twelve =>
    obtain rfl : c = Char.ofNat 12 := by rw [← beq_iff_eq.mp twelve, Char.ofNat_toNat]
    exact readString_short dialect start acc (by decide) rfl rest
  split
  · next control =>
    have taken : ('u' :: hexDigits 4 c.toNat).length = 4 + 1 := by
      rw [List.length_cons, (hexFour?_hexDigits _ control).1]
    have plain : c ≠ halfMark := ne_halfMark_of_basic (Nat.lt_trans control (by decide))
    rw [List.cons_append, List.cons_append, readString.eq_4, if_neg (by decide), if_pos (by decide),
      unicodeEscape_control dialect control more]
    simp only [spell_toNat, marked_of_ne plain]
    rw [← taken, ← List.cons_append, readString_skip]
    rfl
  · next notQuoted _ _ _ _ _ notControl =>
    rw [Bool.or_eq_true, beq_iff_eq, beq_iff_eq, not_or] at notQuoted
    exact readString_plain dialect start acc notQuoted.1 notQuoted.2 notControl rest

/-- A character other than the mark is escaped without one. -/
theorem plain_escapedChar {c : Char} (other : c ≠ halfMark) :
    ∀ e ∈ escapedChar c, e ≠ halfMark := by
  have controls : ∀ n < 32, ('\\' :: 'u' :: hexDigits 4 n).all (·.toNat < 0x80) = true := by
    decide
  unfold escapedChar
  split
  · exact List.forall_mem_cons.mpr ⟨by decide, List.forall_mem_singleton.mpr other⟩
  iterate 5
    split
    · exact ne_halfMark_of_all rfl
  split
  · next control => exact ne_halfMark_of_all (controls c.toNat control)
  · exact List.forall_mem_singleton.mpr other

theorem whole_escaped {text : List Char} (whole : Whole text) :
    Whole (text.flatMap escapedChar) := by
  induction whole with
  | nil => exact .nil
  | char other _ ih => exact (whole_of_plain (plain_escapedChar other)).append ih
  | mark _ ih => exact .mark ih

/-- An escaped text up to its closing quote is read to that text. -/
theorem readString_escaped (text rest : List Char) :
    readString dialect start acc 0 (text.flatMap escapedChar ++ '"' :: rest) =
      .ok (String.ofList (acc.reverse ++ text), rest) := by
  induction text generalizing acc with
  | nil =>
    rw [List.flatMap_nil, List.nil_append, readString_quote, List.append_nil]
  | cons c text ih =>
    rw [List.flatMap_cons, List.append_assoc,
      readString_escapedChar dialect start acc c (by simp), ih, List.reverse_cons,
      List.append_assoc, List.singleton_append]

end Strings

/-! ## Numbers -/

/-- What may follow a number: nothing that would continue it. -/
def EndsNumber (rest : List Char) : Prop :=
  ∀ c ∈ rest.head?, isAsciiDigit c = false ∧ c ≠ '.' ∧ c ≠ 'e' ∧ c ≠ 'E'

/-- No digit comes first. -/
def NoDigit (rest : List Char) : Prop := ∀ c ∈ rest.head?, isAsciiDigit c = false

theorem takeWhile_digits {digits rest : List Char} (all : AllDigits digits) (stop : NoDigit rest) :
    (digits ++ rest).takeWhile isAsciiDigit = digits := by
  rw [List.takeWhile_append_of_pos all]
  cases rest with
  | nil => exact List.append_nil digits
  | cons c rest => rw [List.takeWhile_cons_of_neg (by simp [stop c rfl]), List.append_nil]

theorem dropWhile_digits {digits rest : List Char} (all : AllDigits digits) (stop : NoDigit rest) :
    (digits ++ rest).dropWhile isAsciiDigit = rest := by
  rw [List.dropWhile_append_of_pos all]
  cases rest with
  | nil => rfl
  | cons c rest => rw [List.dropWhile_cons_of_neg (by simp [stop c rfl])]

theorem EndsNumber.noDigit {rest : List Char} (ends : EndsNumber rest) : NoDigit rest :=
  fun c first => (ends c first).1

section Numeral

variable (n : Numeral) {rest : List Char} (ends : EndsNumber rest)
include ends

theorem takeExponent_numeral : takeExponent (n.exponentText ++ rest) = (n.power, rest) := by
  unfold Numeral.exponentText Numeral.power
  cases mark : n.exponent with
  | none =>
    cases rest with
    | nil => rfl
    | cons c rest =>
      obtain ⟨_, _, notLower, notUpper⟩ := ends c rfl
      simp [takeExponent, notLower, notUpper]
  | some e =>
    obtain ⟨negative, digits⟩ := e
    obtain ⟨some, all⟩ := n.exponent_digits _ mark
    have sign : Reading.sign ((if negative then '-' else '+') :: (digits ++ rest)) =
        (negative, digits ++ rest) := by
      cases negative <;> rfl
    simp only [List.cons_append, takeExponent, beq_self_eq_true, Bool.true_or, if_true, sign,
      takeWhile_digits all ends.noDigit, dropWhile_digits all ends.noDigit]
    rw [if_neg (by simpa using some)]

/-- What follows the fraction of a numeral does not continue it. -/
theorem exponentText_first : ∀ c ∈ (n.exponentText ++ rest).head?,
    isAsciiDigit c = false ∧ c ≠ '.' := by
  unfold Numeral.exponentText
  cases n.exponent with
  | none => exact fun c first => ⟨(ends c first).1, (ends c first).2.1⟩
  | some e =>
    rintro c ⟨⟩
    decide

theorem takeFraction_numeral :
    takeFraction (Numeral.pointed n.fraction ++ (n.exponentText ++ rest)) =
      (n.fraction, n.exponentText ++ rest) := by
  have stop := exponentText_first n ends
  generalize n.exponentText ++ rest = after at stop
  have all := n.fraction_digits
  cases digits : n.fraction with
  | nil =>
    cases after with
    | nil => rfl
    | cons c after =>
      obtain ⟨_, notPoint⟩ := stop c rfl
      rw [Numeral.pointed, List.nil_append, takeFraction.eq_2]
      rintro _ ⟨⟩
      exact notPoint rfl
  | cons f fraction =>
    rw [digits] at all
    have noDigit : NoDigit after := fun c first => (stop c first).1
    rw [Numeral.pointed, List.cons_append, takeFraction, takeWhile_digits all noDigit,
      dropWhile_digits all noDigit]
    rfl

theorem takeWhole_numeral : takeWhole (n.text ++ rest) = n.whole := by
  have stop : NoDigit (Numeral.pointed n.fraction ++ n.exponentText ++ rest) := by
    cases n.fraction with
    | nil => exact fun c first => (exponentText_first n ends c first).1
    | cons f fraction =>
      rintro c ⟨⟩
      decide
  rw [Numeral.text, List.append_assoc]
  rcases n.whole_leading with zero | ⟨c, digits, first, other⟩
  · rw [zero]
    rfl
  · rw [takeWhole.eq_2, takeWhile_digits n.whole_digits stop]
    rw [first]
    rintro _ ⟨⟩
    exact other rfl

end Numeral

/-- The minus sign of a number, if it has one. -/
def minusText (negative : Bool) : List Char := if negative then ['-'] else []

/-- A numeral starts with a digit. -/
theorem numeral_first (n : Numeral) : ∃ c rest, n.text = c :: rest ∧ isAsciiDigit c = true := by
  cases whole : n.whole with
  | nil => exact absurd whole n.whole_ne_nil
  | cons c digits =>
    refine ⟨c, digits ++ (Numeral.pointed n.fraction ++ n.exponentText), ?_, ?_⟩
    · rw [Numeral.text, whole, List.cons_append]
    · exact n.whole_digits c (by rw [whole]; exact List.mem_cons_self)

theorem takeMinus_numeral (negative : Bool) (n : Numeral) (rest : List Char) :
    takeMinus (minusText negative ++ (n.text ++ rest)) = (negative, n.text ++ rest) := by
  cases negative with
  | true => rfl
  | false =>
    obtain ⟨c, digits, first, digit⟩ := numeral_first n
    rw [minusText, if_neg Bool.false_ne_true, List.nil_append, first, List.cons_append,
      takeMinus.eq_2]
    rintro _ ⟨⟩
    exact absurd digit (by decide)

theorem drop_whole (n : Numeral) (rest : List Char) : (n.text ++ rest).drop n.whole.length =
    Numeral.pointed n.fraction ++ (n.exponentText ++ rest) := by
  rw [Numeral.text, List.append_assoc, List.append_assoc, List.drop_left]

/-- Nothing is left after the digits exactly when the numeral is an integer. -/
theorem beq_length_iff (n : Numeral) (rest : List Char) :
    (rest.length == (Numeral.pointed n.fraction ++ (n.exponentText ++ rest)).length) = true ↔
      n.IsInteger := by
  rw [← List.append_assoc, List.length_append, beq_iff_eq, Numeral.IsInteger]
  constructor
  · intro same
    obtain ⟨noPoint, noMark⟩ : Numeral.pointed n.fraction = [] ∧ n.exponentText = [] := by
      rw [← List.append_eq_nil_iff, ← List.length_eq_zero_iff]
      omega
    constructor
    · cases fraction : n.fraction with
      | nil => rfl
      | cons c digits => rw [fraction] at noPoint; exact nomatch noPoint
    · unfold Numeral.exponentText at noMark
      cases mark : n.exponent with
      | none => rfl
      | some e => rw [mark] at noMark; exact nomatch noMark
  · rintro ⟨noFraction, noExponent⟩
    simp [Numeral.exponentText, noFraction, noExponent, Numeral.pointed]

section Reading

variable (dialect : Dialect) {negative : Bool} {n : Numeral} {rest : List Char}
  (ends : EndsNumber rest)
include ends

theorem readNumber_of_integer {value : Datum} (isInteger : n.IsInteger)
    (made : integer dialect negative n.whole = .ok value) :
    readNumber dialect (minusText negative ++ (n.text ++ rest)) = .ok (value, rest) := by
  unfold readNumber
  simp only [takeMinus_numeral, takeWhole_numeral n ends, drop_whole, takeFraction_numeral n ends,
    takeExponent_numeral n ends, made]
  rw [if_neg (by simpa using n.whole_ne_nil), if_pos ((beq_length_iff n rest).mpr isInteger)]

theorem readNumber_of_decimal {x : FiniteDouble} (notInteger : ¬ n.IsInteger)
    (made : Double.ofDecimal negative (natOf (n.whole ++ n.fraction))
      (n.power - n.fraction.length) = .finite x) :
    readNumber dialect (minusText negative ++ (n.text ++ rest)) =
      .ok (.float (.finite x), rest) := by
  unfold readNumber
  simp only [takeMinus_numeral, takeWhole_numeral n ends, drop_whole, takeFraction_numeral n ends,
    takeExponent_numeral n ends, made]
  rw [if_neg (by simpa using n.whole_ne_nil), if_neg (mt (beq_length_iff n rest).mp notInteger),
    Double.isFinite, if_pos (Bool.or_true _)]

end Reading

/-! ### Characters of numbers -/

/-- A character of a number. -/
def isNumeralChar (c : Char) : Bool :=
  isAsciiDigit c || c == '.' || c == 'e' || c == '+' || c == '-'

theorem basic_of_numeralChar {c : Char} (numeral : isNumeralChar c = true) : c.toNat < 0x80 := by
  simp only [isNumeralChar, isAsciiDigit, Bool.or_eq_true, Bool.and_eq_true, decide_eq_true_eq,
    beq_iff_eq] at numeral
  rcases numeral with (((digit | rfl) | rfl) | rfl) | rfl
  · have high : c.toNat ≤ '9'.toNat := UInt32.le_iff_toNat_le.mp digit.2
    exact high.trans_lt (by decide)
  all_goals decide

theorem numeralChar_of_digits {text : List Char} (digits : AllDigits text) :
    ∀ c ∈ text, isNumeralChar c = true := by
  intro c member
  rw [isNumeralChar, digits c member]
  rfl

theorem numeralChar_text (n : Numeral) : ∀ c ∈ n.text, isNumeralChar c = true := by
  intro c member
  rw [Numeral.text, List.mem_append, List.mem_append] at member
  rcases member with whole | pointed | exponent
  · exact numeralChar_of_digits n.whole_digits c whole
  · cases fraction : n.fraction with
    | nil =>
      rw [fraction] at pointed
      exact absurd pointed List.not_mem_nil
    | cons f rest =>
      rw [Numeral.pointed_of_ne_nil (by rw [fraction]; exact List.cons_ne_nil f rest)] at pointed
      rcases List.mem_cons.mp pointed with rfl | digit
      · rfl
      · exact numeralChar_of_digits n.fraction_digits c digit
  · unfold Numeral.exponentText at exponent
    cases mark : n.exponent with
    | none =>
      rw [mark] at exponent
      exact absurd exponent List.not_mem_nil
    | some e =>
      obtain ⟨negative, digits⟩ := e
      rw [mark] at exponent
      rcases List.mem_cons.mp exponent with rfl | later
      · rfl
      · rcases List.mem_cons.mp later with rfl | digit
        · cases negative with
          | false => rfl
          | true => rfl
        · exact numeralChar_of_digits (n.exponent_digits _ mark).2 c digit

theorem numeralChar_spelled (negative : Bool) (n : Numeral) :
    ∀ c ∈ minusText negative ++ n.text, isNumeralChar c = true := by
  intro c member
  rcases List.mem_append.mp member with sign | digit
  · cases negative with
    | false => exact absurd sign List.not_mem_nil
    | true =>
      rw [List.mem_singleton.mp sign]
      rfl
  · exact numeralChar_text n c digit

theorem whole_numeral (negative : Bool) (n : Numeral) : Whole (minusText negative ++ n.text) :=
  whole_of_basic fun c member => basic_of_numeralChar (numeralChar_spelled negative n c member)

/-! ### Integers and doubles -/

theorem toList_toString_int (i : Int) :
    (toString i).toList = minusText (decide (i < 0)) ++ (Numeral.ofNat i.natAbs).text := by
  cases i with
  | ofNat n =>
    show (Nat.repr n).toList = _
    simp [minusText, Numeral.text, Numeral.ofNat, Numeral.pointed, Numeral.exponentText, Nat.repr,
      digitChars]
  | negSucc n =>
    show ("-" ++ Nat.repr (n + 1)).toList = _
    simp [minusText, Numeral.text, Numeral.ofNat, Numeral.pointed, Numeral.exponentText, Nat.repr,
      digitChars]

/-- An integer of 64 bits reads back. -/
theorem readNumber_int {i : Int} (low : -signedBound ≤ i) (high : i < unsignedBound)
    {rest : List Char} (ends : EndsNumber rest) :
    readNumber .file ((toString i).toList ++ rest) = .ok (.int i, rest) := by
  have value : (if decide (i < 0) then -((natOf (digitChars i.natAbs) : Nat) : Int)
      else (natOf (digitChars i.natAbs) : Nat)) = i := by
    rw [natOf_digitChars]
    simp only [decide_eq_true_eq]
    omega
  have made : integer .file (decide (i < 0)) (digitChars i.natAbs) = .ok (.int i) := by
    unfold integer
    simp only [value, Dialect.file, Bool.false_eq_true, if_false]
    rw [if_pos (by simp [low, high])]
  rw [toList_toString_int, List.append_assoc]
  exact readNumber_of_integer .file ends ⟨rfl, rfl⟩ made

theorem shortest_zero (x : FiniteDouble) : x.shortest.digits = 0 → x.shortest.exponent = 0 := by
  intro none
  rcases Nat.eq_zero_or_pos x.mantissa with zero | positive
  · rw [FiniteDouble.shortest, if_pos (by rw [FiniteDouble.isZero, zero]; rfl)]
  · exact absurd none (Double.digits_pos_of_near (FiniteDouble.near_shortest positive) positive).ne'

/-- The text of a finite double is a numeral with its sign, of the value of its shortest decimal. -/
theorem exists_numeral_render (x : FiniteDouble) (layout : Layout) :
    ∃ n : Numeral, (Double.render layout (.finite x)).toList = minusText x.negative ++ n.text ∧
      n.value = x.shortest.value ∧ ¬ n.IsInteger := by
  obtain ⟨n, text, value, notInteger⟩ := Decimal.exists_numeral layout (shortest_zero x)
  refine ⟨n, ?_, value, notInteger⟩
  rw [Double.render, String.toList_ofList, text]
  rfl

/-- A finite double reads back in every layout. -/
theorem readNumber_float (x : FiniteDouble) (layout : Layout) {rest : List Char}
    (ends : EndsNumber rest) :
    readNumber .file ((Double.render layout (.finite x)).toList ++ rest) =
      .ok (.float (.finite x), rest) := by
  obtain ⟨n, spelled, value, notInteger⟩ := exists_numeral_render x layout
  rw [spelled, List.append_assoc]
  exact readNumber_of_decimal .file ends notInteger (Double.ofDecimal_shortest x value)

end DesignGauge.Json
