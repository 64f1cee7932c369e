import DesignGauge.Text.Pieces
import Mathlib.Data.List.DropRight

/-!
# Cutting, stripping and searching

What the functions on pieces of a text find, said by the order of lists: a piece is found exactly
where it is a run of neighbouring characters, a cut is made at the first separator, and what was
stripped once has no blanks at its ends.

Results:
1. `holdsPiece_iff`: the search finds every piece.
2. `cut_append_cons`, `cut_of_not_mem`, `eq_append_of_cut`: a text with and without a separator.
3. `strip_strip`, `mem_strip`: stripping again changes nothing, and nothing but blanks is lost.
-/

namespace DesignGauge.Text

theorem holdsPiece_iff {piece text : List Char} :
    holdsPiece piece text = true ↔ piece <:+: text := by
  induction text with
  | nil => rw [holdsPiece, List.isEmpty_iff, List.infix_nil]
  | cons c rest ih =>
    rw [holdsPiece, Bool.or_eq_true, List.isPrefixOf_iff_prefix, ih, List.infix_cons_iff]

/-! ## Cuts -/

section Cut

variable {separator : Char} {text : List Char}

theorem not_mem_cut : separator ∉ (cut separator text).1 := by
  intro member
  have differs := List.mem_takeWhile_imp member
  rw [bne_self_eq_false] at differs
  cases differs

theorem differs_of_not_mem (absent : separator ∉ text) :
    ∀ c ∈ text, (c != separator) = true := by
  intro c member
  refine bne_iff_ne.mpr ?_
  rintro rfl
  exact absent member

theorem cut_of_not_mem (absent : separator ∉ text) : cut separator text = (text, []) := by
  have differs := differs_of_not_mem absent
  rw [cut, List.takeWhile_eq_self_iff.mpr differs, List.dropWhile_eq_nil_iff.mpr differs]
  rfl

theorem cut_append_cons {front rest : List Char} (absent : separator ∉ front) :
    cut separator (front ++ separator :: rest) = (front, rest) := by
  have differs := differs_of_not_mem absent
  rw [cut, List.takeWhile_append_of_pos differs, List.dropWhile_append_of_pos differs,
    List.takeWhile_cons_of_neg (by simp), List.dropWhile_cons_of_neg (by simp), List.append_nil]
  rfl

/-- Where something is left behind a cut, the separator stands in between. -/
theorem eq_append_of_cut (left : (cut separator text).2 ≠ []) :
    text = (cut separator text).1 ++ separator :: (cut separator text).2 := by
  by_cases present : separator ∈ text
  · obtain ⟨front, rest, rfl, absent⟩ := List.eq_append_cons_of_mem present
    rw [cut_append_cons absent]
  · rw [cut_of_not_mem present] at left
    exact absurd rfl left

end Cut

/-! ## Blanks at the ends -/

theorem strip_infix (text : List Char) : strip text <:+: text :=
  (List.rdropWhile_prefix isBlank _).isInfix.trans (List.dropWhile_suffix isBlank).isInfix

/-- Dropping blanks from the end does not bring one to the front. -/
theorem dropWhile_strip (text : List Char) : (strip text).dropWhile isBlank = strip text := by
  rw [List.dropWhile_eq_self_iff]
  intro nonempty blank
  have inFront : strip text <+: text.dropWhile isBlank := List.rdropWhile_prefix isBlank _
  have first := List.dropWhile_eq_self_iff.mp (List.dropWhile_idempotent isBlank text)
    (nonempty.trans_le inFront.length_le)
  rw [← inFront.getElem nonempty] at first
  exact first blank

theorem strip_strip (text : List Char) : strip (strip text) = strip text := by
  rw [strip, dropWhile_strip]
  exact List.rdropWhile_idempotent isBlank (text.dropWhile isBlank)

/-- A stripped text does not end in a blank. -/
theorem not_isBlank_of_getLast?_strip {text : List Char} {c : Char}
    (ends : c ∈ (strip text).getLast?) : isBlank c = false := by
  obtain ⟨nonempty, rfl⟩ := List.mem_getLast?_eq_getLast ends
  exact Bool.not_eq_true _ ▸ List.rdropWhile_last_not isBlank (text.dropWhile isBlank) nonempty

/-- Stripping drops nothing but blanks. -/
theorem mem_strip {text : List Char} {c : Char} (member : c ∈ text) (solid : isBlank c = false) :
    c ∈ strip text := by
  have kept {l : List Char} (member : c ∈ l) : c ∈ l.dropWhile isBlank := by
    rw [← List.takeWhile_append_dropWhile (p := isBlank) (l := l)] at member
    refine (List.mem_append.mp member).resolve_left fun front => ?_
    rw [List.mem_takeWhile_imp front] at solid
    cases solid
  exact List.mem_reverse.mpr (kept (List.mem_reverse.mpr (kept member)))

end DesignGauge.Text
