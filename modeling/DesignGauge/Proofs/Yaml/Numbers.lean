import DesignGauge.Proofs.Json.Scalars
import DesignGauge.Yaml.Value

/-!
# Numbers in YAML

The text of a number suggests its kind, and its value is that number: integers are digits without
leading zeros, and what is not whole has a point, with a sign on its exponent.

Results:
1. `ofPlain_int`, `intValue_toString`: integers.
2. `ofPlain_numeral`, `floatValue_numeral`: finite doubles.
3. `scalarValue_number`: numbers of all kinds as threshold files spell them.
-/

namespace DesignGauge.Yaml

open Text Json Reading

/-! ## Characters of numbers -/

/-- What the readers of numbers ask about a character of a number. -/
theorem numeralChar_facts {c : Char} (numeral : isNumeralChar c = true) :
    c.toNat < 128 ∧ c ≠ '_' ∧ c ≠ ':' ∧ c ≠ '\n' ∧ c.toLower = c ∧ Reading.plain c = c ∧
      isBlank c = false ∧ (c == ' ' || (9 ≤ c.toNat && c.toNat ≤ 13)) = false := by
  have table : ∀ n < 128, isNumeralChar (Char.ofNat n) = true →
      Char.ofNat n ≠ '_' ∧ Char.ofNat n ≠ ':' ∧ Char.ofNat n ≠ '\n' ∧
      (Char.ofNat n).toLower = Char.ofNat n ∧ Reading.plain (Char.ofNat n) = Char.ofNat n ∧
      isBlank (Char.ofNat n) = false ∧
      (Char.ofNat n == ' ' || (9 ≤ (Char.ofNat n).toNat && (Char.ofNat n).toNat ≤ 13)) = false := by
    decide +kernel
  have basic := basic_of_numeralChar numeral
  have facts := table c.toNat basic
  rw [Char.ofNat_toNat] at facts
  exact ⟨basic, facts numeral⟩

/-! ## Kinds -/

theorem unsigned_spelled (negative : Bool) (n : Numeral) :
    Reading.sign (minusText negative ++ n.text) = (negative, n.text) := by
  obtain ⟨c, rest, text, digit⟩ := numeral_first n
  cases negative with
  | true => rfl
  | false =>
    rw [minusText, if_neg Bool.false_ne_true, List.nil_append, text]
    unfold Reading.sign
    split
    · next same =>
      obtain ⟨rfl, _⟩ := List.cons.inj same
      exact absurd digit (by decide)
    · next same =>
      obtain ⟨rfl, _⟩ := List.cons.inj same
      exact absurd digit (by decide)
    · rfl

/-- A text of characters of numbers is no word, so that its spelling decides. -/
theorem ofPlain_of_numeralChars {text : List Char} (chars : ∀ c ∈ text, isNumeralChar c = true) :
    (Tag.spellsFloat text = true → Tag.ofPlain (String.ofList text) = .float) ∧
    (Tag.spellsFloat text = false → Tag.spellsInt text = true →
      Tag.ofPlain (String.ofList text) = .int) := by
  have noBreak : ¬ '\n' ∈ text := fun member => (numeralChar_facts (chars _ member)).2.2.2.1 rfl
  have whole : (if String.ofList text == "\n" then (String.ofList text).toList
      else Tag.closed (String.ofList text).toList) = text := by
    have closed : Tag.closed text = text :=
      if_neg fun last => noBreak (List.mem_of_getLast? (eq_of_beq last))
    rw [String.toList_ofList, closed, ite_self]
  have noWord : Tag.boolWords.lookup (String.ofList text) = none := by
    have words : ∀ word ∈ Tag.boolWords, word.1.toList.all isNumeralChar = false := by
      decide +kernel
    rw [List.lookup_eq_none_iff]
    intro word member
    rw [bne_iff_ne]
    intro same
    have other := words word member
    rw [← same, String.toList_ofList, List.all_eq_true.mpr chars] at other
    exact nomatch other
  unfold Tag.ofPlain
  simp only [whole, noWord, Option.isSome_none, Bool.false_eq_true, if_false]
  constructor
  · intro float
    rw [if_pos float]
  · intro notFloat int
    rw [notFloat, if_neg Bool.false_ne_true, if_pos int]

/-- Words for what is not finite are no numerals. -/
theorem not_special (words : List String) {text : List Char}
    (special : ∀ word ∈ words, word.toList.all isNumeralChar = false)
    (chars : ∀ c ∈ text, isNumeralChar c = true) : (words.any (·.toList == text)) = false := by
  rw [List.any_eq_false]
  intro word member same
  have other := special word member
  rw [eq_of_beq same, List.all_eq_true.mpr chars] at other
  exact nomatch other

/-- Digits in front of a point, with an exponent after the fraction or groups of sixty before it. -/
def spellsPointed (text : List Char) : Bool :=
  match Tag.afterDigits? text with
  | some ('.' :: rest) => Tag.isExponent (rest.dropWhile Tag.isDigitMark)
  | some rest => match Tag.afterSixties? rest with
    | some ('.' :: fraction) => fraction.all Tag.isDigitMark
    | _ => false
  | none => false

/-- Whether a numeral spells a double is decided behind its first digits. -/
theorem spellsFloat_spelled (negative : Bool) (n : Numeral) :
    Tag.spellsFloat (minusText negative ++ n.text) = spellsPointed n.text := by
  obtain ⟨c, rest, text, digit⟩ := numeral_first n
  have body : Tag.unsigned (minusText negative ++ n.text) = n.text := by
    rw [Tag.unsigned, unsigned_spelled]
  have notNan := not_special [".nan", ".NaN", ".NAN"] (by decide +kernel)
    (numeralChar_spelled negative n)
  have notInf := not_special [".inf", ".Inf", ".INF"] (by decide +kernel)
    (numeralChar_text n)
  -- The case of a leading point is passed over only when the text is known not to start with one.
  have noPoint : ∀ later, minusText negative ++ n.text ≠ '.' :: later := by
    intro later same
    cases negative with
    | true => exact absurd (List.cons.inj same).1 (by decide)
    | false =>
      rw [minusText, if_neg Bool.false_ne_true, List.nil_append, text] at same
      obtain ⟨rfl, _⟩ := List.cons.inj same
      exact absurd digit (by decide)
  unfold Tag.spellsFloat
  simp only [body, notNan, notInf, Bool.false_or]
  rfl

theorem dropWhile_digitMarks {digits rest : List Char} (all : AllDigits digits)
    (stop : ∀ c ∈ rest.head?, Tag.isDigitMark c = false) :
    (digits ++ rest).dropWhile Tag.isDigitMark = rest := by
  have marks : ∀ c ∈ digits, Tag.isDigitMark c = true := fun c member => by
    rw [Tag.isDigitMark, all c member, Bool.true_or]
  rw [List.dropWhile_append_of_pos marks]
  cases rest with
  | nil => rfl
  | cons c rest => rw [List.dropWhile_cons_of_neg (by simp [stop c rfl])]

/-- Behind the first digits of a numeral stands its fraction. -/
theorem afterDigits?_numeral (n : Numeral) :
    Tag.afterDigits? n.text = some (Numeral.pointed n.fraction ++ n.exponentText) := by
  have stop : ∀ c ∈ (Numeral.pointed n.fraction ++ n.exponentText).head?,
      Tag.isDigitMark c = false := by
    cases n.fraction with
    | cons f fraction =>
      rintro c ⟨⟩
      decide
    | nil =>
      unfold Numeral.exponentText
      cases n.exponent with
      | none => exact nofun
      | some e =>
        rintro c ⟨⟩
        decide
  have all := n.whole_digits
  rw [Numeral.text]
  cases whole : n.whole with
  | nil => exact absurd whole n.whole_ne_nil
  | cons c rest =>
    rw [whole] at all
    have digit := all c List.mem_cons_self
    have later : AllDigits rest := fun d member => all d (List.mem_cons_of_mem c member)
    rw [List.cons_append, Tag.afterDigits?, if_pos digit, dropWhile_digitMarks later stop]

/-! ## Integers -/

theorem ofNat_text (n : Nat) : (Numeral.ofNat n).text = digitChars n := by
  show digitChars n ++ (Numeral.pointed [] ++ []) = digitChars n
  rw [Numeral.pointed, List.append_nil, List.append_nil]

/-- Digits suggest an integer. -/
theorem ofPlain_int (i : Int) : Tag.ofPlain (toString i) = .int := by
  have spelled := toList_toString_int i
  have chars := numeralChar_spelled (decide (i < 0)) (Numeral.ofNat i.natAbs)
  have float := spellsFloat_spelled (decide (i < 0)) (Numeral.ofNat i.natAbs)
  have body : Tag.unsigned (toString i).toList = digitChars i.natAbs := by
    rw [Tag.unsigned, spelled, unsigned_spelled, ofNat_text]
  rw [← spelled] at chars float
  obtain ⟨_, int⟩ := ofPlain_of_numeralChars chars
  rw [String.ofList_toList] at int
  refine int ?_ ?_
  · rw [float, spellsPointed, afterDigits?_numeral]
    rfl
  · unfold Tag.spellsInt
    rw [body]
    have all := allDigits_digitChars i.natAbs
    rcases digitChars_leading i.natAbs with zero | ⟨c, rest, digits, other⟩
    · rw [zero]
      rfl
    · rw [digits] at all ⊢
      have digit := all c List.mem_cons_self
      have later : AllDigits rest := fun d member => all d (List.mem_cons_of_mem c member)
      have nothing : ∀ d ∈ ([] : List Char).head?, Tag.isDigitMark d = false := nofun
      have marks := dropWhile_digitMarks later nothing
      rw [List.append_nil] at marks
      split
      · next same => exact absurd (List.cons.inj same).1 other
      · next same => exact absurd (List.cons.inj same).1 other
      · next same => exact absurd (List.cons.inj same).1 other
      · next same => exact absurd (List.cons.inj same).1 other
      · next same =>
        obtain ⟨rfl, rfl⟩ := List.cons.inj same
        rw [digit, marks]
        rfl
      · next same => exact nomatch same

theorem digitIn?_of_digit {c : Char} (digit : isAsciiDigit c = true) :
    digitIn? 10 c = some (c.toNat - '0'.toNat) := by
  have range := digit
  rw [isAsciiDigit, Bool.and_eq_true, decide_eq_true_eq, decide_eq_true_eq] at range
  have high : c.toNat ≤ '9'.toNat := UInt32.le_iff_toNat_le.mp range.2
  have small : c.toNat - '0'.toNat < 10 := by
    have nine : '9'.toNat = 57 := rfl
    have zero : '0'.toNat = 48 := rfl
    omega
  have value : Json.hexValue? c = some (c.toNat - '0'.toNat) := by
    rw [Json.hexValue?, if_pos digit]
  unfold digitIn?
  rw [value]
  exact if_pos small

theorem mapM_digitIn? {digits : List Char} (all : AllDigits digits) :
    digits.mapM (digitIn? 10) = some (digits.map fun c => c.toNat - '0'.toNat) := by
  induction digits with
  | nil => rfl
  | cons c rest ih =>
    have first := digitIn?_of_digit (all c List.mem_cons_self)
    have later := ih fun d member => all d (List.mem_cons_of_mem c member)
    rw [List.mapM_cons, first, later]
    rfl

theorem dropWhile_of_none {p : Char → Bool} {text : List Char} (none : ∀ c ∈ text, p c = false) :
    text.dropWhile p = text := by
  cases text with
  | nil => rfl
  | cons c rest => rw [List.dropWhile_cons_of_neg (by simp [none c List.mem_cons_self])]

theorem dropRightWhile_of_none {p : Char → Bool} {text : List Char}
    (none : ∀ c ∈ text, p c = false) : dropRightWhile p text = text := by
  rw [dropRightWhile, dropWhile_of_none fun c member => none c (List.mem_reverse.mp member),
    List.reverse_reverse]

theorem sign_digitChars (n : Nat) : Reading.sign (digitChars n) = (false, digitChars n) := by
  have unsigned := unsigned_spelled false (Numeral.ofNat n)
  rw [ofNat_text] at unsigned
  exact unsigned

/-- The digits of a natural, at most as many as are read, are read as that natural. -/
theorem integerIn_digitChars {n : Nat} (short : (digitChars n).length ≤ digitLimit) :
    integerIn 10 (digitChars n) = .ok n := by
  have all := allDigits_digitChars n
  have noBlank : ∀ c ∈ digitChars n, isBlank c = false := fun c member =>
    (numeralChar_facts (numeralChar_of_digits all c member)).2.2.2.2.2.2.1
  have stripped : strip (digitChars n) = digitChars n := by
    rw [strip, dropWhile_of_none noBlank, dropRightWhile_of_none noBlank]
  have unmarked : dropBaseMark 10 (digitChars n) = digitChars n := by
    unfold dropBaseMark
    split
    · rfl
    · rfl
  have value : ((digitChars n).map fun c => c.toNat - '0'.toNat).foldl (10 * · + ·) 0 = n := by
    rw [List.foldl_map]
    exact natOf_digitChars n
  unfold integerIn
  simp only [stripped, sign_digitChars, unmarked, mapM_digitIn? all, value]
  rw [if_neg (by simpa using digitChars_ne_nil n),
    if_neg (by simpa using short)]
  rfl

theorem filter_underscore {text : List Char} (chars : ∀ c ∈ text, isNumeralChar c = true) :
    text.filter (· != '_') = text := by
  rw [List.filter_eq_self]
  exact fun c member => bne_iff_ne.mpr (numeralChar_facts (chars c member)).2.1

/-- An integer of at most as many digits as are read is read back. -/
theorem intValue_toString {i : Int} (short : (digitChars i.natAbs).length ≤ digitLimit) :
    intValue (toString i).toList = .ok (.int i) := by
  have spelled := toList_toString_int i
  have chars := numeralChar_spelled (decide (i < 0)) (Numeral.ofNat i.natAbs)
  have unsigned := unsigned_spelled (decide (i < 0)) (Numeral.ofNat i.natAbs)
  rw [← spelled] at chars unsigned
  rw [ofNat_text] at unsigned
  have signed : signOf ((toString i).toList.filter (· != '_')) =
      .ok (decide (i < 0), digitChars i.natAbs) := by
    have some : (toString i).toList ≠ [] := by
      intro none
      rw [none] at unsigned
      exact digitChars_ne_nil _ (Prod.mk.inj unsigned).2.symm
    rw [filter_underscore chars, signOf, unsigned, if_neg (by simpa using some)]
  unfold intValue
  rw [signed]
  simp only [bind, Except.bind]
  rcases digitChars_leading i.natAbs with zero | ⟨c, rest, digits, other⟩
  · have none : i = 0 := by
      rw [← Int.natAbs_eq_zero, ← natOf_digitChars i.natAbs, zero]
      rfl
    rw [none]
    rfl
  · have read := integerIn_digitChars short
    have colon : (digitChars i.natAbs).contains ':' = false := by
      rw [List.contains_eq_any_beq, List.any_eq_false]
      intro d member same
      have digit := allDigits_digitChars i.natAbs d member
      rw [← eq_of_beq same] at digit
      exact absurd digit (by decide)
    rw [digits] at read colon ⊢
    split
    · next same => exact nomatch same
    · next same => exact absurd (List.cons.inj same).1 other
    · next same => exact absurd (List.cons.inj same).1 other
    · next same => exact absurd (List.cons.inj same).1 other
    · next same => exact absurd (List.cons.inj same).1 other
    · rw [colon, if_neg Bool.false_ne_true, read]
      have whole : (if decide (i < 0) = true then -(i.natAbs : Int) else i.natAbs) = i := by
        by_cases negative : i < 0
        · rw [decide_eq_true negative, if_pos rfl]
          omega
        · rw [decide_eq_false negative, if_neg Bool.false_ne_true]
          omega
      exact congrArg (Except.ok ∘ Datum.int) whole

/-! ## Doubles -/

theorem point_mem_render (d : Decimal) : '.' ∈ d.render .thresholds := by
  unfold Decimal.render
  split
  · unfold Decimal.positional
    simp only
    split
    · exact List.mem_append_right _ List.mem_cons_self
    · exact List.mem_append_right _ List.mem_cons_self
  · unfold Decimal.scientific
    simp only
    split
    · exact List.mem_append_left _ (List.mem_append_right _ List.mem_cons_self)
    · exact List.mem_append_left _ (List.mem_append_right _ List.mem_cons_self)

/-- A point stands in a numeral only in front of its fraction. -/
theorem fraction_of_point {n : Numeral} (point : '.' ∈ n.text) : n.fraction ≠ [] := by
  intro none
  have notDigit {digits : List Char} (all : AllDigits digits) : ¬ '.' ∈ digits :=
    fun member => absurd (all '.' member) (by decide)
  rw [Numeral.text, none, Numeral.pointed, List.nil_append] at point
  rcases List.mem_append.mp point with whole | exponent
  · exact notDigit n.whole_digits whole
  · unfold Numeral.exponentText at exponent
    cases mark : n.exponent with
    | none =>
      rw [mark] at exponent
      exact absurd exponent List.not_mem_nil
    | some e =>
      obtain ⟨negative, digits⟩ := e
      rw [mark] at exponent
      rcases List.mem_cons.mp exponent with same | later
      · exact absurd same (by decide)
      · rcases List.mem_cons.mp later with same | member
        · cases negative with
          | false => exact absurd same (by decide)
          | true => exact absurd same (by decide)
        · exact notDigit (n.exponent_digits _ mark).2 member

/-- A finite double in a threshold file is a numeral with a fraction. -/
theorem exists_numeral_thresholds (x : FiniteDouble) :
    ∃ n : Numeral, (Double.render .thresholds (.finite x)).toList = minusText x.negative ++ n.text ∧
      n.value = x.shortest.value ∧ n.fraction ≠ [] := by
  obtain ⟨n, text, value, _⟩ := Decimal.exists_numeral .thresholds (shortest_zero x)
  refine ⟨n, ?_, value, fraction_of_point ?_⟩
  · rw [Double.render, String.toList_ofList, text]
    rfl
  · rw [text]
    exact point_mem_render x.shortest

theorem isExponent_numeral (n : Numeral) : Tag.isExponent n.exponentText = true := by
  unfold Numeral.exponentText
  cases mark : n.exponent with
  | none => rfl
  | some e =>
    obtain ⟨negative, digits⟩ := e
    obtain ⟨some, all⟩ := n.exponent_digits _ mark
    cases digits with
    | nil => exact absurd rfl some
    | cons c rest =>
      have digit := all c List.mem_cons_self
      have later : rest.all isAsciiDigit = true :=
        List.all_eq_true.mpr fun d member => all d (List.mem_cons_of_mem c member)
      simp only [Tag.isExponent, digit, later]
      cases negative with
      | false => rfl
      | true => rfl

theorem exponentText_stops (n : Numeral) :
    ∀ c ∈ n.exponentText.head?, Tag.isDigitMark c = false := by
  unfold Numeral.exponentText
  cases n.exponent with
  | none => exact nofun
  | some e =>
    rintro c ⟨⟩
    decide

/-- A numeral with a fraction suggests a double. -/
theorem ofPlain_numeral (negative : Bool) {n : Numeral} (point : n.fraction ≠ []) :
    Tag.ofPlain (String.ofList (minusText negative ++ n.text)) = .float := by
  refine (ofPlain_of_numeralChars (numeralChar_spelled negative n)).1 ?_
  rw [spellsFloat_spelled, spellsPointed, afterDigits?_numeral, Numeral.pointed_of_ne_nil point,
    List.cons_append]
  simp only
  rw [dropWhile_digitMarks n.fraction_digits (exponentText_stops n)]
  exact isExponent_numeral n

theorem joinGroups?_of_none {text : List Char} (none : ∀ c ∈ text, c ≠ '_') :
    joinGroups? text = some text := by
  induction text with
  | nil => rfl
  | cons c rest ih =>
    have later := ih fun d member => none d (List.mem_cons_of_mem c member)
    have first := none c List.mem_cons_self
    unfold joinGroups?
    split
    · next same => exact nomatch same
    · next same => exact absurd (List.cons.inj same).1 first
    · next same =>
      obtain ⟨rfl, rfl⟩ := List.cons.inj same
      exact absurd rfl (none '_' (List.mem_cons_of_mem _ List.mem_cons_self))
    · next same =>
      obtain ⟨rfl, rfl⟩ := List.cons.inj same
      exact absurd rfl (none '_' (List.mem_cons_of_mem _ List.mem_cons_self))
    · next same =>
      obtain ⟨rfl, rfl⟩ := List.cons.inj same
      rw [later]
      rfl

theorem bare_of_numeralChars {text : List Char} (chars : ∀ c ∈ text, isNumeralChar c = true) :
    bare text = text := by
  have apart : ∀ c ∈ text, surrounds c = false := by
    intro c member
    obtain ⟨_, _, _, _, _, _, notBlank, notSpace⟩ := numeralChar_facts (chars c member)
    rw [surrounds, notSpace, notBlank, Bool.and_false, Bool.or_false]
  rw [bare, dropWhile_of_none apart, dropRightWhile_of_none apart]
  exact (List.map_congr_left fun c member =>
    (numeralChar_facts (chars c member)).2.2.2.2.2.1).trans (List.map_id' text)

theorem exponent?_numeral (n : Numeral) : exponent? n.exponentText = some n.power := by
  unfold Numeral.exponentText Numeral.power
  cases mark : n.exponent with
  | none => rfl
  | some e =>
    obtain ⟨negative, digits⟩ := e
    obtain ⟨some, all⟩ := n.exponent_digits _ mark
    have sign : Reading.sign ((if negative then '-' else '+') :: digits) = (negative, digits) := by
      cases negative with
      | false => rfl
      | true => rfl
    have decimal : (digits.isEmpty || !digits.all isAsciiDigit) = false := by
      rw [List.all_eq_true.mpr all, List.isEmpty_eq_false_iff.mpr some]
      rfl
    simp only [exponent?, beq_self_eq_true, Bool.true_or, if_true, sign, decimal]
    rfl

/-- A numeral with a fraction is read as the double that is nearest to it. -/
theorem doubleOf_numeral {n : Numeral} (point : n.fraction ≠ []) :
    doubleOf n.text = .ok (Double.ofDecimal false (natOf (n.whole ++ n.fraction))
      (n.power - n.fraction.length)) := by
  have chars := numeralChar_text n
  have lowered : n.text.map Char.toLower = n.text :=
    (List.map_congr_left fun c member => (numeralChar_facts (chars c member)).2.2.2.2.1).trans
      (List.map_id' n.text)
  have word (name : String) (special : name.toList.all isNumeralChar = false) :
      (String.ofList n.text == name) = false := by
    rw [beq_eq_false_iff_ne]
    rintro rfl
    rw [String.toList_ofList, List.all_eq_true.mpr chars] at special
    exact nomatch special
  have noDigit : NoDigit n.exponentText := by
    intro c first
    have stops := exponentText_stops n c first
    rw [Tag.isDigitMark, Bool.or_eq_false_iff] at stops
    exact stops.1
  have split : n.text = n.whole ++ '.' :: (n.fraction ++ n.exponentText) := by
    rw [Numeral.text, Numeral.pointed_of_ne_nil point, List.cons_append]
  have noPoint : NoDigit ('.' :: (n.fraction ++ n.exponentText)) := by
    rintro c ⟨⟩
    decide
  have read : unsigned? false n.text = some (Double.ofDecimal false (natOf (n.whole ++ n.fraction))
      (n.power - n.fraction.length)) := by
    unfold unsigned?
    rw [split]
    simp only [takeWhile_digits n.whole_digits noPoint, dropWhile_digits n.whole_digits noPoint,
      takeWhile_digits n.fraction_digits noDigit, dropWhile_digits n.fraction_digits noDigit,
      exponent?_numeral]
    rw [if_neg (by simp [n.whole_ne_nil])]
    rfl
  have text : ofText? (String.ofList n.text) = some (Double.ofDecimal false
      (natOf (n.whole ++ n.fraction)) (n.power - n.fraction.length)) := by
    have joined := joinGroups?_of_none fun c member => (numeralChar_facts (chars c member)).2.1
    have unsigned : Reading.sign n.text = (false, n.text) := unsigned_spelled false n
    unfold ofText? double?
    simp only [String.toList_ofList, bare_of_numeralChars chars, joined,
      Option.bind_eq_bind, Option.bind_some, unsigned, lowered, word "inf" (by decide),
      word "infinity" (by decide), word "nan" (by decide), read]
    rfl
  rw [doubleOf, text]

theorem floatValue_numeral (negative : Bool) {n : Numeral} (point : n.fraction ≠ []) :
    floatValue (minusText negative ++ n.text) =
      .ok (.float (if negative then (Double.ofDecimal false (natOf (n.whole ++ n.fraction))
          (n.power - n.fraction.length)).neg
        else Double.ofDecimal false (natOf (n.whole ++ n.fraction))
          (n.power - n.fraction.length))) := by
  have chars := numeralChar_spelled negative n
  have lowered : lowerChars (minusText negative ++ n.text) = minusText negative ++ n.text := by
    rw [lowerChars, if_pos]
    · exact (List.map_congr_left fun c member =>
        (numeralChar_facts (chars c member)).2.2.2.2.1).trans (List.map_id' _)
    · exact List.all_eq_true.mpr fun c member =>
        decide_eq_true (numeralChar_facts (chars c member)).1
  have signed : signOf (lowerChars ((minusText negative ++ n.text).filter (· != '_'))) =
      .ok (negative, n.text) := by
    rw [filter_underscore chars, lowered, signOf, unsigned_spelled, if_neg]
    rw [List.isEmpty_iff, List.append_eq_nil_iff]
    rintro ⟨_, empty⟩
    rw [Numeral.text, List.append_eq_nil_iff] at empty
    exact n.whole_ne_nil empty.1
  have special (word : List Char) (special : word.all isNumeralChar = false) :
      (n.text == word) = false := by
    rw [beq_eq_false_iff_ne]
    rintro rfl
    rw [List.all_eq_true.mpr (numeralChar_text n)] at special
    cases special
  have noColon : n.text.contains ':' = false := by
    rw [Bool.eq_false_iff, ne_eq, List.contains_iff_mem]
    exact fun member => (numeralChar_facts (numeralChar_text n _ member)).2.2.1 rfl
  unfold floatValue
  rw [signed]
  simp only [bind, Except.bind, special ".inf".toList (by decide),
    special ".nan".toList (by decide), noColon, Bool.false_eq_true, if_false,
    doubleOf_numeral point]
  rfl

theorem ofDecimal_magnitude (x : FiniteDouble) {digits : Nat} {exponent : Int}
    (value : (digits : ℚ) * 10 ^ exponent = x.shortest.value) :
    (if x.negative then (Double.ofDecimal false digits exponent).neg
      else Double.ofDecimal false digits exponent) = .finite x := by
  obtain ⟨negative, mantissa, least, canonical⟩ := x
  have magnitude := Double.ofDecimal_shortest ⟨false, mantissa, least, canonical⟩ value
  rw [show Double.ofDecimal false digits exponent = _ from magnitude]
  cases negative with
  | false => rfl
  | true => rfl

/-! ## Numbers of threshold files -/

/-- An integer of no more digits than are read, or a double other than the one that is not a
number. -/
def isRepeatable : Number → Bool
  | .int i => (digitChars i.natAbs).length ≤ digitLimit
  | .float x => x != .nan

/-- The text of a number suggests a kind under which it is read as that number. -/
theorem scalarValue_number {v : Number} (repeatable : isRepeatable v = true) :
    scalarValue (Tag.ofPlain (v.render .thresholds)) (v.render .thresholds) =
      .ok (.ofNumber v) := by
  cases v with
  | int i =>
    rw [Number.render, ofPlain_int]
    exact intValue_toString (of_decide_eq_true repeatable)
  | float x =>
    cases x with
    | nan => exact nomatch repeatable
    | infinite negative =>
      have tags : Tag.ofPlain ".inf" = .float ∧ Tag.ofPlain "-.inf" = .float := by decide +kernel
      cases negative with
      | false => exact (congrArg (scalarValue · ".inf") tags.1).trans rfl
      | true => exact (congrArg (scalarValue · "-.inf") tags.2).trans rfl
    | finite x =>
      obtain ⟨n, text, value, point⟩ := exists_numeral_thresholds x
      have same : Double.render .thresholds (.finite x) =
          String.ofList (minusText x.negative ++ n.text) := by
        rw [← text, String.ofList_toList]
      rw [Number.render, same, ofPlain_numeral x.negative point, scalarValue,
        String.toList_ofList, floatValue_numeral x.negative point, ofDecimal_magnitude x value]
      rfl

end DesignGauge.Yaml
