import DesignGauge.Proofs.Path.Respelling
import DesignGauge.TypeName

/-!
# Scanning a text for dotted names

A character that cannot continue a name ends every name in front of it, so that the dotted names of
a text are those of its pieces between such characters, in order. Blanks are among them: the names
of a text are the names of its words.

Results:
1. `dottedNames_append_cons`: the names in front of a break and those behind it.
2. `words_append_cons`, `words_of_solid`: words between blanks.
3. `dottedNames_words`, `dottedNames_intercalate`: taking a text apart into words, and putting
   words together, keeps the names.
-/

namespace DesignGauge

namespace Text

/-! ## Blanks and words -/

/-- The code points of a class, one by one. -/
def CharClass.codes (ranges : CharClass) : List Nat :=
  ranges.flatMap fun range => List.range' range.1 (range.2 + 1 - range.1)

theorem CharClass.mem_codes_of_has {ranges : CharClass} {c : Char} (has : ranges.has c = true) :
    c.toNat ∈ ranges.codes := by
  obtain ⟨range, member, inside⟩ := List.any_eq_true.mp has
  rw [Bool.and_eq_true, decide_eq_true_eq, decide_eq_true_eq] at inside
  refine List.mem_flatMap.mpr ⟨range, member, List.mem_range'_1.mpr ⟨inside.1, ?_⟩⟩
  omega

/-- No blank is a word character. -/
theorem isWord_of_isBlank {c : Char} (blank : isBlank c = true) : Text.isWord c = false := by
  -- the blanks are few enough to go through them one by one
  have table : (CharClass.codes blanks).all (fun code => !Text.isWord (.ofNat code)) = true := by
    decide +kernel
  have entry := List.all_eq_true.mp table _ (CharClass.mem_codes_of_has blank)
  rwa [Char.ofNat_toNat, Bool.not_eq_true'] at entry

theorem words_append_cons {b : Char} (blank : isBlank b = true) (front back : List Char) :
    words (front ++ b :: back) = words front ++ words back := by
  rw [words, List.splitOnP_append_cons front back blank, List.filter_append]
  rfl

theorem words_of_solid {text : List Char} (solid : ∀ c ∈ text, isBlank c = false) :
    words text = if text.isEmpty then [] else [text] := by
  rw [words, List.splitOnP_eq_singleton solid, List.filter_singleton]
  cases text with
  | nil => rfl
  | cons c rest => rfl

/-- What holds of texts without blanks, and of a text with a blank in it if it holds of both sides,
holds of all texts. -/
theorem blank_induction {P : List Char → Prop}
    (solid : ∀ text, (∀ c ∈ text, isBlank c = false) → P text)
    (broken : ∀ front b back, isBlank b = true → P front → P back → P (front ++ b :: back))
    (text : List Char) : P text := by
  by_cases allSolid : ∀ c ∈ text, isBlank c = false
  · exact solid text allSolid
  · simp only [not_forall, Bool.not_eq_false] at allSolid
    obtain ⟨b, member, blank⟩ := allSolid
    obtain ⟨front, back, split⟩ := List.append_of_mem member
    have shorter : front.length < text.length ∧ back.length < text.length := by
      rw [split, List.length_append, List.length_cons]
      omega
    rw [split]
    exact broken front b back blank (blank_induction solid broken front)
      (blank_induction solid broken back)
termination_by text.length
decreasing_by
  · exact shorter.1
  · exact shorter.2

/-- The words of a text hold its characters that are no blanks. -/
theorem flatten_words (text : List Char) : (words text).flatten = text.filter (!isBlank ·) := by
  induction text using blank_induction with
  | solid text solid =>
    have kept : text.filter (!isBlank ·) = text :=
      List.filter_eq_self.mpr fun c member => by rw [solid c member, Bool.not_false]
    rw [words_of_solid solid, kept]
    cases text with
    | nil => rfl
    | cons c rest => exact List.append_nil _
  | broken front b back blank ihFront ihBack =>
    rw [words_append_cons blank, List.flatten_append, ihFront, ihBack, List.filter_append,
      List.filter_cons, blank]
    rfl

theorem mem_of_mem_words {text word : List Char} {c : Char} (isWord : word ∈ words text)
    (member : c ∈ word) : c ∈ text := by
  have held : c ∈ (words text).flatten := List.mem_flatten.mpr ⟨word, isWord, member⟩
  rw [flatten_words] at held
  exact (List.mem_filter.mp held).1

theorem exists_word_of_mem {text : List Char} {c : Char} (member : c ∈ text)
    (solid : isBlank c = false) : ∃ word ∈ words text, c ∈ word := by
  have held : c ∈ (words text).flatten := by
    rw [flatten_words]
    exact List.mem_filter.mpr ⟨member, by rw [solid, Bool.not_false]⟩
  exact List.mem_flatten.mp held

end Text

namespace TypeName

open Text

/-! ## Names between breaks -/

theorem dottedNames_nil : dottedNames [] = [] := by rw [dottedNames]

theorem dottedNames_cons_of_starts {c : Char} (starts : startsName c = true) (rest : List Char) :
    dottedNames (c :: rest) =
      (c :: rest.takeWhile continuesName) :: dottedNames (rest.dropWhile continuesName) := by
  rw [dottedNames, if_pos starts]

theorem dottedNames_cons_of_not_starts {c : Char} (starts : ¬ startsName c = true)
    (rest : List Char) : dottedNames (c :: rest) = dottedNames rest := by
  rw [dottedNames, if_neg starts]

theorem continuesName_of_startsName {c : Char} (starts : startsName c = true) :
    continuesName c = true := by
  rw [startsName, Bool.or_eq_true, Bool.or_eq_true] at starts
  rcases starts with (letter | underscore) | dollar
  · have basic : c.toNat < 0x80 := by
      rcases isAsciiLetter_iff.mp letter with capital | small
      · omega
      · omega
    simp [continuesName, Text.isWord, basic, letter]
  · rw [beq_iff_eq.mp underscore]
    decide
  · rw [beq_iff_eq.mp dollar]
    decide

theorem continuesName_of_isBlank {c : Char} (blank : isBlank c = true) :
    continuesName c = false := by
  have dollar : c ≠ '$' := by
    rintro rfl
    exact absurd blank (by decide)
  have point : c ≠ '.' := by
    rintro rfl
    exact absurd blank (by decide)
  simp [continuesName, isWord_of_isBlank blank, dollar, point]

theorem isBlank_of_continuesName {c : Char} (continues : continuesName c = true) :
    isBlank c = false := by
  cases blank : isBlank c with
  | false => rfl
  | true =>
    rw [continuesName_of_isBlank blank] at continues
    exact Bool.noConfusion continues

/-- The names of a text with a break in it. -/
theorem dottedNames_append_cons {stop : Char} (breaks : continuesName stop = false)
    (front back : List Char) :
    dottedNames (front ++ stop :: back) = dottedNames front ++ dottedNames back := by
  have noStart : ¬ startsName stop = true := by
    intro starts
    rw [continuesName_of_startsName starts] at breaks
    exact Bool.noConfusion breaks
  -- along the scan: a name that reaches the break ends there, and the scan goes on behind it
  induction front using dottedNames.induct with
  | case1 =>
    rw [List.nil_append, dottedNames_cons_of_not_starts noStart, dottedNames_nil, List.nil_append]
  | case2 c rest starts ih =>
    have taken : (rest ++ stop :: back).takeWhile continuesName = rest.takeWhile continuesName := by
      rw [List.takeWhile_append]
      split
      · next all =>
        rw [List.takeWhile_cons_of_neg (by simp [breaks]), List.append_nil,
          (List.takeWhile_prefix _).eq_of_length all]
      · rfl
    have left : (rest ++ stop :: back).dropWhile continuesName =
        rest.dropWhile continuesName ++ stop :: back := by
      simp [List.dropWhile_append, breaks]
    rw [List.cons_append, dottedNames_cons_of_starts starts, dottedNames_cons_of_starts starts,
      taken, left, ih, List.cons_append]
  | case3 c rest starts ih =>
    rw [List.cons_append, dottedNames_cons_of_not_starts starts,
      dottedNames_cons_of_not_starts starts, ih]

theorem dottedNames_cons_of_breaks {stop : Char} (breaks : continuesName stop = false)
    (rest : List Char) : dottedNames (stop :: rest) = dottedNames rest := by
  have scan := dottedNames_append_cons breaks [] rest
  rwa [List.nil_append, dottedNames_nil, List.nil_append] at scan

/-- A text that is one name. -/
theorem dottedNames_of_name {first : Char} {rest : List Char} (starts : startsName first = true)
    (continues : ∀ c ∈ rest, continuesName c = true) :
    dottedNames (first :: rest) = [first :: rest] := by
  rw [dottedNames_cons_of_starts starts, List.takeWhile_eq_self_iff.mpr continues,
    List.dropWhile_eq_nil_iff.mpr continues, dottedNames_nil]

/-- The names of a text are those of its words. -/
theorem dottedNames_words (text : List Char) :
    (words text).flatMap dottedNames = dottedNames text := by
  induction text using blank_induction with
  | solid text solid =>
    rw [words_of_solid solid]
    cases text with
    | nil => exact dottedNames_nil.symm
    | cons c rest => exact List.append_nil _
  | broken front b back blank ihFront ihBack =>
    rw [words_append_cons blank, List.flatMap_append, ihFront, ihBack,
      dottedNames_append_cons (continuesName_of_isBlank blank)]

/-- The names of pieces that are put together with a break between any two. -/
theorem dottedNames_intercalate {stop : Char} (breaks : continuesName stop = false)
    (pieces : List (List Char)) :
    dottedNames ([stop].intercalate pieces) = pieces.flatMap dottedNames := by
  induction pieces with
  | nil => exact dottedNames_nil
  | cons first others ih =>
    cases others with
    | nil => simp [List.intercalate]
    | cons second others =>
      rw [List.intercalate_cons_cons, List.append_assoc, List.singleton_append,
        dottedNames_append_cons breaks, ih]
      rfl

end TypeName

end DesignGauge
