import DesignGauge.Text.Case
import Mathlib.Data.List.Basic

/-!
# Lower case

Lower case does not see the case of basic letters. A word that has only plain characters is the
lower case form of nothing but its own spellings in basic letters: no character from outside the
basic range has a plain one as its form.

Results:
1. `lowerChars_congr`: lower case does not see the case of basic letters, not even next to a sigma.
2. `lowerChars_eq_iff`: a text in lower case is a plain word exactly if its letters are those of the
   word.
-/

namespace DesignGauge.Text

/-! ## The case of basic letters -/

theorem toNat_toLower (c : Char) :
    c.toLower.toNat = if 65 ≤ c.toNat ∧ c.toNat ≤ 90 then c.toNat + 32 else c.toNat := by
  have capital : (c.val ≥ 'A'.val ∧ c.val ≤ 'Z'.val) ↔ (65 ≤ c.toNat ∧ c.toNat ≤ 90) := by
    rw [ge_iff_le, UInt32.le_iff_toNat_le, UInt32.le_iff_toNat_le]
    rfl
  unfold Char.toLower
  split
  · next inside =>
    obtain ⟨_, high⟩ := capital.mp inside
    rw [if_pos (capital.mp inside)]
    show (c.val + ('a'.val - 'A'.val)).toNat = c.toNat + 32
    rw [UInt32.toNat_add]
    show (c.toNat + 32) % 2 ^ 32 = c.toNat + 32
    exact Nat.mod_eq_of_lt (by omega)
  · next outside => rw [if_neg fun inside => outside (capital.mpr inside)]

theorem isAsciiLetter_iff {c : Char} :
    isAsciiLetter c = true ↔
      (65 ≤ c.toNat ∧ c.toNat ≤ 90) ∨ (97 ≤ c.toNat ∧ c.toNat ≤ 122) := by
  have codes (a b : Char) : a ≤ b ↔ a.toNat ≤ b.toNat := UInt32.le_iff_toNat_le
  simp only [isAsciiLetter, Bool.or_eq_true, Bool.and_eq_true, decide_eq_true_eq, codes]
  exact or_comm

/-- Different characters that agree in lower case are both letters. -/
theorem eq_or_letters {c d : Char} (same : c.toLower = d.toLower) :
    c = d ∨ (isAsciiLetter c = true ∧ isAsciiLetter d = true) := by
  have codes := congrArg Char.toNat same
  rw [toNat_toLower, toNat_toLower] at codes
  rw [isAsciiLetter_iff, isAsciiLetter_iff]
  by_cases equal : c.toNat = d.toNat
  · exact .inl (Char.toNat_inj.mp equal)
  · right
    split at codes <;> split at codes <;> omega

/-- A basic letter has case, and the form of a sigma does not look past it. -/
theorem classes_of_letter {c : Char} (letter : isAsciiLetter c = true) :
    CharClass.has caseIgnorableRanges c = false ∧ CharClass.has casedRanges c = true := by
  have table : ∀ n < 123, (65 ≤ n ∧ n ≤ 90) ∨ (97 ≤ n ∧ n ≤ 122) →
      CharClass.holds caseIgnorableRanges n = false ∧ CharClass.holds casedRanges n = true := by
    decide +kernel
  rw [isAsciiLetter_iff] at letter
  exact table c.toNat (by omega) letter

theorem lowerChar_of_letter {c : Char} (letter : isAsciiLetter c = true) :
    lowerChar c = [c.toLower] := by
  rw [isAsciiLetter_iff] at letter
  rw [lowerChar, if_pos (by omega)]

theorem ne_sigma_of_letter {c : Char} (letter : isAsciiLetter c = true) : (c == 'Σ') = false := by
  rw [beq_eq_false_iff_ne]
  rintro rfl
  exact absurd letter (by decide)

theorem meetsCased_cons (c : Char) (rest : List Char) :
    meetsCased (c :: rest) =
      if CharClass.has caseIgnorableRanges c then meetsCased rest
      else CharClass.has casedRanges c := by
  unfold meetsCased
  rw [List.dropWhile_cons]
  by_cases passed : CharClass.has caseIgnorableRanges c = true
  · rw [if_pos passed, if_pos passed]
  · rw [if_neg passed, if_neg passed]

/-- Letters in another case have the same effect on a sigma. -/
theorem meetsCased_congr {a b : List Char} (same : a.map Char.toLower = b.map Char.toLower) :
    meetsCased a = meetsCased b := by
  induction a generalizing b with
  | nil => rw [List.map_eq_nil_iff.mp same.symm]
  | cons c a ih =>
    cases b with
    | nil => simp at same
    | cons d b =>
      obtain ⟨first, rest⟩ := List.cons.inj same
      rw [meetsCased_cons, meetsCased_cons, ih rest]
      rcases eq_or_letters first with rfl | ⟨letter, letter'⟩
      · rfl
      · obtain ⟨kept, cased⟩ := classes_of_letter letter
        obtain ⟨kept', cased'⟩ := classes_of_letter letter'
        rw [kept, kept', cased, cased']

theorem lowerAfter_congr {before before' a b : List Char}
    (seen : before.map Char.toLower = before'.map Char.toLower)
    (same : a.map Char.toLower = b.map Char.toLower) :
    lowerAfter before a = lowerAfter before' b := by
  induction a generalizing before before' b with
  | nil => rw [List.map_eq_nil_iff.mp same.symm, lowerAfter, lowerAfter]
  | cons c a ih =>
    cases b with
    | nil => simp at same
    | cons d b =>
      obtain ⟨first, rest⟩ := List.cons.inj same
      have next : (c :: before).map Char.toLower = (d :: before').map Char.toLower := by
        rw [List.map_cons, List.map_cons, first, seen]
      rw [lowerAfter, lowerAfter, ih next rest, meetsCased_congr seen, meetsCased_congr rest]
      rcases eq_or_letters first with rfl | ⟨letter, letter'⟩
      · rfl
      · rw [ne_sigma_of_letter letter, ne_sigma_of_letter letter', lowerChar_of_letter letter,
          lowerChar_of_letter letter', first]

theorem all_basic_congr {a b : List Char} (same : a.map Char.toLower = b.map Char.toLower) :
    (a.all fun c => decide (c.toNat < 0x80)) = b.all fun c => decide (c.toNat < 0x80) := by
  have lowered (text : List Char) : (text.all fun c => decide (c.toNat < 0x80)) =
      (text.map Char.toLower).all fun c => decide (c.toNat < 0x80) := by
    rw [List.all_map]
    refine congrArg text.all (funext fun c => decide_eq_decide.mpr ?_)
    show c.toNat < 0x80 ↔ c.toLower.toNat < 0x80
    rw [toNat_toLower]
    split <;> omega
  rw [lowered a, lowered b, same]

/-- Lower case does not see the case of basic letters. -/
theorem lowerChars_congr {a b : List Char} (same : a.map Char.toLower = b.map Char.toLower) :
    lowerChars a = lowerChars b := by
  unfold lowerChars
  rw [all_basic_congr same, lowerAfter_congr rfl same, same]

/-! ## Words without letters of a second kind -/

/-- A character of the basic range that is the lower case form of no character outside it. -/
def isPlain (c : Char) : Bool := 0 < c.toNat && c.toNat < 0x80 && c != 'k'

/-- Outside the basic range only the sign of the unit kelvin has a basic letter as its form. -/
theorem lowerRuns_high : ∀ run ∈ lowerRuns,
    run.last < 0x80 ∨ (0x80 : Int) ≤ run.first + run.shift ∨
      (run.first = 0x212A ∧ run.last = 0x212A ∧ run.shift = -8383) := by
  decide +kernel

theorem not_isPlain_of_high {c : Char} (high : 0x80 ≤ c.toNat) : isPlain c = false := by
  simp [isPlain, Nat.not_lt.mpr high]

theorem not_isPlain_ofNat {code : Nat} (high : 0x80 ≤ code) :
    isPlain (Char.ofNat code) = false := by
  unfold Char.ofNat
  by_cases valid : code.isValidChar
  · rw [dif_pos valid]
    exact not_isPlain_of_high high
  · rw [dif_neg valid]
    rfl

theorem not_isPlain_shiftCase {c : Char} (high : 0x80 ≤ c.toNat) :
    isPlain (shiftCase lowerRuns c) = false := by
  unfold shiftCase
  split
  · next run found =>
    have inside := List.find?_some found
    simp only [Bool.and_eq_true, decide_eq_true_eq] at inside
    obtain ⟨⟨above, below⟩, _⟩ := inside
    have member := List.mem_of_find?_eq_some found
    rcases lowerRuns_high run member with low | far | ⟨first, last, shift⟩
    · omega
    · exact not_isPlain_ofNat (by omega)
    · have kelvin : c.toNat = 0x212A := by omega
      rw [kelvin, shift]
      rfl
  · exact not_isPlain_of_high high

theorem exists_not_isPlain_lowerChar {c : Char} (high : 0x80 ≤ c.toNat) :
    ∃ d ∈ lowerChar c, isPlain d = false := by
  rw [lowerChar, if_neg (Nat.not_lt.mpr high)]
  split
  · exact ⟨Char.ofNat 0x307, by simp, by decide⟩
  · exact ⟨_, List.mem_singleton_self _, not_isPlain_shiftCase high⟩

/-- The form of a character outside the basic range has a character that is not plain. -/
theorem exists_not_isPlain_lowerAfter {text : List Char} {c : Char} (member : c ∈ text)
    (high : 0x80 ≤ c.toNat) (before : List Char) :
    ∃ d ∈ lowerAfter before text, isPlain d = false := by
  induction text generalizing before with
  | nil => exact absurd member List.not_mem_nil
  | cons first rest ih =>
    simp only [lowerAfter, List.mem_append]
    rcases List.mem_cons.mp member with rfl | later
    · split
      · split
        · exact ⟨'ς', .inl (List.mem_singleton_self _), by decide⟩
        · exact ⟨'σ', .inl (List.mem_singleton_self _), by decide⟩
      · obtain ⟨d, form, notPlain⟩ := exists_not_isPlain_lowerChar high
        exact ⟨d, .inl form, notPlain⟩
    · obtain ⟨d, form, notPlain⟩ := ih later (first :: before)
      exact ⟨d, .inr form, notPlain⟩

theorem lowerChars_of_basic {text : List Char} (basic : ∀ c ∈ text, c.toNat < 0x80) :
    lowerChars text = text.map Char.toLower := by
  rw [lowerChars, if_pos (List.all_eq_true.mpr fun c member => decide_eq_true (basic c member))]

/-- A text in lower case is a plain word exactly if its letters are those of the word. -/
theorem lowerChars_eq_iff {text word : List Char}
    (plain : ∀ c ∈ word.map Char.toLower, isPlain c = true) :
    lowerChars text = lowerChars word ↔ text.map Char.toLower = word.map Char.toLower := by
  have basicWord : ∀ c ∈ word, c.toNat < 0x80 := by
    intro c member
    have form := plain _ (List.mem_map_of_mem member)
    simp only [isPlain, Bool.and_eq_true, decide_eq_true_eq, toNat_toLower] at form
    split at form <;> omega
  refine ⟨fun same => ?_, lowerChars_congr⟩
  rw [lowerChars_of_basic basicWord] at same
  have basic : ∀ c ∈ text, c.toNat < 0x80 := by
    intro c member
    by_contra low
    have high := Nat.not_lt.mp low
    -- the form of such a character would be one of the word
    have outside : ¬ (text.all fun c => decide (c.toNat < 0x80)) = true := fun all =>
      low (of_decide_eq_true (List.all_eq_true.mp all c member))
    obtain ⟨d, form, notPlain⟩ := exists_not_isPlain_lowerAfter member high []
    rw [lowerChars, if_neg outside] at same
    rw [same] at form
    rw [plain d form] at notPlain
    cases notPlain
  rwa [lowerChars_of_basic basic] at same

end DesignGauge.Text
