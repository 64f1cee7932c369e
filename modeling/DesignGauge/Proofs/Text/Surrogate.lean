import DesignGauge.Text.Surrogate
import Mathlib.Data.List.TakeWhile

/-!
# Whole texts

A text is whole if no mark in it stands for half of a surrogate pair. Such a text is what is kept
for its code points, and each of these is the code of a character. Whole texts can be put together
and can be taken apart at every character other than the mark.

Results:
1. `isWholeList_iff`: whole texts as an inductive predicate.
2. `Leaves.whole`: what is left of a whole text after characters other than the mark.
3. `Whole.spell_codes`, `Whole.code_bounds`: a whole text and its code points.
4. `isWholeList_append_cons`: a text is whole exactly if its parts before and after a character
   other than the mark are.
-/

namespace DesignGauge.Text

/-- A text in which every mark is there twice. -/
inductive Whole : List Char → Prop
  | nil : Whole []
  | char {c : Char} {rest : List Char} : c ≠ halfMark → Whole rest → Whole (c :: rest)
  | mark {rest : List Char} : Whole rest → Whole (halfMark :: halfMark :: rest)

/-! ## One character in front -/

theorem marked_of_ne {c : Char} (other : c ≠ halfMark) : marked c = [c] :=
  if_neg (by simpa using other)

theorem codes_cons {c : Char} (other : c ≠ halfMark) (rest : List Char) :
    codes (c :: rest) = c.toNat :: codes rest := by
  cases rest with
  | nil => rfl
  | cons d rest => rw [codes, if_neg (by simpa using other)]

theorem codes_mark (d : Char) (rest : List Char) :
    codes (halfMark :: d :: rest) = codeBehind d :: codes rest := by
  rw [codes, if_pos (beq_self_eq_true _)]

theorem isWholeList_cons {c : Char} (other : c ≠ halfMark) (rest : List Char) :
    isWholeList (c :: rest) = isWholeList rest := by
  cases rest with
  | nil => rw [isWholeList, isWholeList, bne_iff_ne.mpr other]
  | cons d rest => rw [isWholeList, if_neg (by simpa using other)]

theorem isWholeList_mark (d : Char) (rest : List Char) :
    isWholeList (halfMark :: d :: rest) = (d == halfMark && isWholeList rest) := by
  rw [isWholeList, if_pos (beq_self_eq_true _)]

/-- Characters of the basic range are no marks. -/
theorem ne_halfMark_of_basic {c : Char} (basic : c.toNat < 0x80) : c ≠ halfMark := by
  rintro rfl
  exact absurd basic (by decide)

theorem ne_halfMark_of_all {text : List Char} (basic : text.all (·.toNat < 0x80) = true) :
    ∀ c ∈ text, c ≠ halfMark :=
  fun c member => ne_halfMark_of_basic (of_decide_eq_true (List.all_eq_true.mp basic c member))

/-! ## Whole texts -/

theorem isWholeList_iff {text : List Char} : isWholeList text = true ↔ Whole text := by
  constructor
  · intro whole
    induction text using isWholeList.induct with
    | case1 => exact .nil
    | case2 c => exact .char (bne_iff_ne.mp whole) .nil
    | case3 c d rest isMark ih =>
      obtain rfl := eq_of_beq isMark
      rw [isWholeList_mark, Bool.and_eq_true, beq_iff_eq] at whole
      obtain ⟨rfl, later⟩ := whole
      exact .mark (ih later)
    | case4 c d rest isChar ih =>
      have other : c ≠ halfMark := by simpa using isChar
      rw [isWholeList_cons other] at whole
      exact .char other (ih whole)
  · intro whole
    induction whole with
    | nil => rfl
    | char other _ ih => rw [isWholeList_cons other, ih]
    | mark _ ih => rw [isWholeList_mark, ih, beq_self_eq_true, Bool.and_true]

theorem Whole.append {front back : List Char} (first : Whole front) (second : Whole back) :
    Whole (front ++ back) := by
  induction first with
  | nil => exact second
  | char other _ ih => exact .char other ih
  | mark _ ih => exact .mark ih

/-- What is left of a text after characters other than the mark were taken off its front. -/
def Leaves (text rest : List Char) : Prop :=
  ∃ front, text = front ++ rest ∧ ∀ c ∈ front, c ≠ halfMark

theorem Leaves.refl (text : List Char) : Leaves text text :=
  ⟨[], rfl, fun _ member => absurd member List.not_mem_nil⟩

theorem Leaves.trans {text middle rest : List Char} (first : Leaves text middle)
    (second : Leaves middle rest) : Leaves text rest := by
  obtain ⟨front, rfl, plain⟩ := first
  obtain ⟨more, rfl, plain'⟩ := second
  exact ⟨front ++ more, (List.append_assoc front more rest).symm,
    List.forall_mem_append.mpr ⟨plain, plain'⟩⟩

theorem Leaves.cons {c : Char} (plain : c ≠ halfMark) (rest : List Char) :
    Leaves (c :: rest) rest :=
  ⟨[c], rfl, List.forall_mem_singleton.mpr plain⟩

/-- What is left of a whole text is whole. -/
theorem Leaves.whole {text rest : List Char} (leaves : Leaves text rest) (whole : Whole text) :
    Whole rest := by
  obtain ⟨front, same, plain⟩ := leaves
  induction front generalizing text with
  | nil =>
    obtain rfl : text = rest := same
    exact whole
  | cons c front ih =>
    rw [List.forall_mem_cons] at plain
    cases whole with
    | nil => exact nomatch same
    | char _ later => exact ih later (List.cons.inj same).2 plain.2
    | mark => exact absurd (List.cons.inj same).1.symm plain.1

theorem whole_of_plain {text : List Char} (plain : ∀ c ∈ text, c ≠ halfMark) : Whole text := by
  induction text with
  | nil => exact .nil
  | cons c rest ih =>
    rw [List.forall_mem_cons] at plain
    exact .char plain.1 (ih plain.2)

theorem whole_of_basic {text : List Char} (basic : ∀ c ∈ text, c.toNat < 0x80) : Whole text :=
  whole_of_plain fun c member => ne_halfMark_of_basic (basic c member)

theorem isWholeList_plain_append {front : List Char} (plain : ∀ c ∈ front, c ≠ halfMark)
    (back : List Char) : isWholeList (front ++ back) = isWholeList back := by
  induction front with
  | nil => rfl
  | cons c front ih =>
    rw [List.forall_mem_cons] at plain
    rw [List.cons_append, isWholeList_cons plain.1, ih plain.2]

/-- A text is whole exactly if its parts before and after a character other than the mark are. -/
theorem isWholeList_append_cons {c : Char} (other : c ≠ halfMark) (front back : List Char) :
    isWholeList (front ++ c :: back) = (isWholeList front && isWholeList back) := by
  induction front using isWholeList.induct with
  | case1 => rw [List.nil_append, isWholeList_cons other, isWholeList, Bool.true_and]
  | case2 d =>
    rw [List.singleton_append]
    by_cases isMark : d = halfMark
    · rw [isMark, isWholeList_mark, beq_false_of_ne other, isWholeList, bne_self_eq_false]
    · rw [isWholeList_cons isMark, isWholeList_cons isMark, isWholeList_cons other, isWholeList,
        Bool.true_and]
  | case3 d e rest isMark ih =>
    rw [eq_of_beq isMark, List.cons_append, List.cons_append, isWholeList_mark, isWholeList_mark,
      ih, Bool.and_assoc]
  | case4 d e rest isChar ih =>
    have plain : d ≠ halfMark := by simpa using isChar
    rw [List.cons_append, isWholeList_cons plain, isWholeList_cons plain, ih]

/-- Parts with a character other than the mark between them make a whole text exactly if each of
them is whole. -/
theorem isWholeList_intercalate {c : Char} (other : c ≠ halfMark) (parts : List (List Char)) :
    isWholeList (List.intercalate [c] parts) = parts.all isWholeList := by
  induction parts with
  | nil => rfl
  | cons first rest ih =>
    cases rest with
    | nil => simp [List.intercalate]
    | cons second rest =>
      rw [List.intercalate_cons_cons, List.append_assoc, List.singleton_append,
        isWholeList_append_cons other, ih]
      rfl

/-! ## Code points -/

theorem codes_of_basic {text : List Char} (basic : ∀ c ∈ text, c.toNat < 0x80) :
    codes text = text.map Char.toNat := by
  induction text with
  | nil => rfl
  | cons c rest ih =>
    rw [List.forall_mem_cons] at basic
    rw [codes_cons (ne_halfMark_of_basic basic.1), ih basic.2]
    rfl

theorem codes_append {front : List Char} (whole : Whole front) (back : List Char) :
    codes (front ++ back) = codes front ++ codes back := by
  induction whole with
  | nil => rfl
  | char other _ ih => rw [List.cons_append, codes_cons other, ih, codes_cons other]; rfl
  | mark _ ih => rw [List.cons_append, List.cons_append, codes_mark, ih, codes_mark]; rfl

/-- The code of a character is neither half of a pair nor beyond the last one. -/
theorem code_bounds (c : Char) : c.toNat < 0xD800 ∨ 0xDFFF < c.toNat ∧ c.toNat < 0x110000 :=
  c.valid

theorem isSurrogate_eq_false_iff {code : Nat} :
    isSurrogate code = false ↔ code < 0xD800 ∨ 0xDFFF < code := by
  rw [isSurrogate, Bool.and_eq_false_iff, decide_eq_false_iff_not, decide_eq_false_iff_not]
  omega

theorem isSurrogate_toNat (c : Char) : isSurrogate c.toNat = false :=
  isSurrogate_eq_false_iff.mpr ((code_bounds c).imp_right And.left)

theorem spell_toNat (c : Char) : spell c.toNat = marked c := by
  rw [spell, if_neg (by simp [isSurrogate_toNat]), Char.ofNat_toNat]

theorem codeBehind_mark : codeBehind halfMark = halfMark.toNat := if_pos (beq_self_eq_true _)

/-- The code points of a whole text are those of characters. -/
theorem Whole.code_bounds {text : List Char} (whole : Whole text) :
    ∀ code ∈ codes text, ∃ c : Char, code = c.toNat := by
  induction whole with
  | nil => exact List.forall_mem_nil _
  | char other _ ih =>
    rw [codes_cons other]
    exact List.forall_mem_cons.mpr ⟨⟨_, rfl⟩, ih⟩
  | mark _ ih =>
    rw [codes_mark, codeBehind_mark]
    exact List.forall_mem_cons.mpr ⟨⟨_, rfl⟩, ih⟩

/-- A whole text is what is kept for its code points. -/
theorem Whole.spell_codes {text : List Char} (whole : Whole text) :
    (codes text).flatMap spell = text := by
  induction whole with
  | nil => rfl
  | char other _ ih =>
    rw [codes_cons other, List.flatMap_cons, ih, spell_toNat, marked_of_ne other]
    rfl
  | mark _ ih =>
    rw [codes_mark, codeBehind_mark, List.flatMap_cons, ih, spell_toNat]
    rfl

end DesignGauge.Text
