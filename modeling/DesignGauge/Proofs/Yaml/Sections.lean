import DesignGauge.Proofs.Yaml.Scanning
import DesignGauge.Yaml.Tag
import DesignGauge.Yaml.Writer
import Mathlib.Algebra.GroupWithZero.Nat

/-!
# Scanning sections of numbers

The tokens of a text of sections are those of a mapping of mappings. An entry takes three steps of
the scan and the name of a section two; the end of a section is noticed at the line after it.

Results:
1. `Scan.run_entry`, `Scan.run_entries`: the entries of a section.
2. `Scan.run_section`, `Scan.run_sections`: one section after the other.
3. `tokens_sections`: the tokens of a text of sections.
-/

namespace DesignGauge.Yaml

open Text

/-! ## The text and its tokens -/

/-- The name of a section or of an entry: a word that is short enough for a key, no mark of a
document, and nothing but a text. -/
def isName (s : String) : Bool :=
  isPlainWord s.toList && s.toList.length ≤ 1024 && s.toList.head? != some '-' &&
    s.toList.head? != some '.' && Tag.ofPlain s == .text

/-- The text of a number is one word. -/
def isWritten (v : Number) : Bool := isPlainWord (v.render .thresholds).toList

/-- The tokens of an entry. -/
def entryTokens (entry : String × Number) : List Token :=
  [.key, .scalar entry.1 true, .value, .scalar (entry.2.render .thresholds) true]

/-- The tokens of a section. -/
def sectionTokens (part : String × List (String × Number)) : List Token :=
  [.key, .scalar part.1 true, .value, .blockMappingStart] ++ part.2.flatMap entryTokens ++
    [.blockEnd]

/-- The tokens of all sections. -/
def sectionsTokens (parts : List (String × List (String × Number))) : List Token :=
  .blockMappingStart :: parts.flatMap sectionTokens ++ [.blockEnd]

/-- The characters of the lines of a section. -/
def lineChars (entries : List (String × Number)) : List Char :=
  entries.flatMap fun entry => (entryLine entry).toList

/-- The characters of all sections. -/
def sectionChars (parts : List (String × List (String × Number))) : List Char :=
  parts.flatMap fun part => (sectionText part).toList

theorem lineChars_cons (e : String × Number) (es : List (String × Number)) (rest : List Char) :
    lineChars (e :: es) ++ rest = List.replicate 2 ' ' ++ (e.1.toList ++ ':' :: ' ' ::
      ((e.2.render .thresholds).toList ++ '\n' :: (lineChars es ++ rest))) := by
  simp only [lineChars, List.flatMap_cons, entryLine, String.toList_append, List.append_assoc]
  rfl

theorem sectionChars_cons (part : String × List (String × Number))
    (parts : List (String × List (String × Number))) :
    sectionChars (part :: parts) =
      part.1.toList ++ ':' :: '\n' :: (lineChars part.2 ++ sectionChars parts) := by
  rw [sectionChars, List.flatMap_cons, sectionText, String.toList_append, String.toList_append,
    String.toList_join, List.flatMap_map, List.append_assoc, List.append_assoc]
  rfl

theorem toList_sectionsText (parts : List (String × List (String × Number))) :
    (sectionsText parts).toList = sectionChars parts := by
  rw [sectionsText, String.toList_join, List.flatMap_map]
  rfl

/-- What may follow the end of a line at its first column: a word, or nothing. -/
structure StartsLine (rest : List Char) : Prop where
  solid : StartsSolid rest
  apart (i l k : Nat) : Cursor.atSeparator ⟨rest, i, l, k⟩ = false

theorem startsLine_nil : StartsLine [] := ⟨nofun, fun _ _ _ => rfl⟩

theorem name_facts {s : String} (name : isName s = true) :
    isPlainWord s.toList = true ∧ s.toList.length ≤ 1024 ∧ s.toList.head? ≠ some '-' ∧
      s.toList.head? ≠ some '.' ∧ Tag.ofPlain s = .text := by
  simpa only [isName, Bool.and_eq_true, decide_eq_true_eq, bne_iff_ne, beq_iff_eq, and_assoc]
    using name

theorem startsLine_name {s : String} (name : isName s = true) (rest : List Char) :
    StartsLine (s.toList ++ rest) := by
  obtain ⟨word, _, dash, dot, _⟩ := name_facts name
  refine ⟨solid_of_plainWord word rest, fun i l k => ?_⟩
  obtain ⟨c, more, text⟩ := List.exists_cons_of_ne_nil (ne_nil_of_plainWord word)
  rw [text] at dash dot ⊢
  exact Cursor.atSeparator_of_ne (fun same => dash (congrArg some same))
    (fun same => dot (congrArg some same)) (more ++ rest) i l k

/-- A section that has entries, with names and texts of numbers that are words. -/
structure IsSection (part : String × List (String × Number)) : Prop where
  named : isName part.1 = true
  some : part.2 ≠ []
  names : ∀ entry ∈ part.2, isName entry.1 = true
  written : ∀ entry ∈ part.2, isWritten entry.2 = true
  distinct : (part.2.map Prod.fst).Nodup

theorem startsLine_sections {parts : List (String × List (String × Number))}
    (sections : ∀ part ∈ parts, IsSection part) : StartsLine (sectionChars parts) := by
  cases parts with
  | nil => exact startsLine_nil
  | cons part parts =>
    have starts := startsLine_name (sections part List.mem_cons_self).named
    rw [sectionChars_cons]
    exact starts _

namespace Scan

/-- One entry, up to the first character of the next line. The first entry of a section opens its
block. -/
theorem run_entry {e : String × Number} (name : isName e.1 = true) (written : isWritten e.2 = true)
    {rest : List Char} {n : Nat} (solid : StartsSolid rest)
    (apart : Cursor.atSeparator ⟨List.replicate n ' ' ++ rest, 0, 0, 0⟩ = false) (left : n ≤ 2)
    {s : Scan} (fresh : s.keys = []) {i l : Nat} {toks : List Token} {indent : Int}
    {outer : List Int}
    (settled : s.settled = ⟨⟨e.1.toList ++ ':' :: ' ' :: ((e.2.render .thresholds).toList ++ '\n' ::
      (List.replicate n ' ' ++ rest)), i, l, 2⟩, toks, 0, indent, outer, true, []⟩)
    (le : indent ≤ 2) (fuel : Nat) :
    ∃ j, s.run (fuel + 3) =
      run ⟨⟨rest, j, l + 1, n⟩, (entryTokens e).reverse ++
        (if indent < 2 then .blockMappingStart :: toks else toks), 0, 2,
        if indent < 2 then indent :: outer else outer, true, []⟩ fuel := by
  obtain ⟨word, short, _⟩ := name_facts name
  have key := run_key fresh word short settled ((startsLine_name name _).apart i l 2) rfl le
    (fuel + 1)
  rw [afterKey, run_value written solid apart (by omega) (Int.ofNat_le.mpr left),
    String.ofList_toList, String.ofList_toList] at key
  exact ⟨_, key⟩

/-- The entries of a section. -/
theorem run_entries {e : String × Number} {es : List (String × Number)}
    (names : ∀ x ∈ e :: es, isName x.1 = true) (written : ∀ x ∈ e :: es, isWritten x.2 = true)
    {rest : List Char} (next : StartsLine rest) {s : Scan} (fresh : s.keys = [])
    {i l : Nat} {toks : List Token} {indent : Int} {outer : List Int}
    (settled : s.settled = ⟨⟨e.1.toList ++ ':' :: ' ' :: ((e.2.render .thresholds).toList ++ '\n' ::
      (lineChars es ++ rest)), i, l, 2⟩, toks, 0, indent, outer, true, []⟩)
    (le : indent ≤ 2) (fuel : Nat) :
    ∃ j m, s.run (fuel + 3 * (es.length + 1)) =
      run ⟨⟨rest, j, m, 0⟩, ((e :: es).flatMap entryTokens).reverse ++
        (if indent < 2 then .blockMappingStart :: toks else toks), 0, 2,
        if indent < 2 then indent :: outer else outer, true, []⟩ fuel := by
  induction es generalizing e s i l toks indent outer with
  | nil =>
    obtain ⟨j, run⟩ := run_entry (names e List.mem_cons_self) (written e List.mem_cons_self)
      (n := 0) next.solid (next.apart 0 0 0) (by decide) fresh settled le fuel
    refine ⟨j, l + 1, run.trans ?_⟩
    rw [List.flatMap_cons, List.flatMap_nil, List.append_nil]
  | cons x xs ih =>
    have name := names x (List.mem_cons_of_mem e List.mem_cons_self)
    rw [lineChars_cons] at settled
    obtain ⟨j, run⟩ := run_entry (names e List.mem_cons_self) (written e List.mem_cons_self)
      (n := 2) (startsLine_name name _).solid rfl (by decide) fresh settled le
      (fuel + 3 * (xs.length + 1))
    obtain ⟨j', m, runs⟩ := ih (fun y member => names y (List.mem_cons_of_mem e member))
      (fun y member => written y (List.mem_cons_of_mem e member)) rfl
      (settled_solid (n := 0) (startsLine_name name _).solid (Int.le_refl 2)) (Int.le_refl 2)
    have joined : ((e :: x :: xs).flatMap entryTokens).reverse =
        ((x :: xs).flatMap entryTokens).reverse ++ (entryTokens e).reverse := by
      rw [List.flatMap_cons, List.reverse_append]
    refine ⟨j', m, run.trans (runs.trans ?_)⟩
    rw [joined, List.append_assoc, if_neg (Int.lt_irrefl 2), if_neg (Int.lt_irrefl 2)]

/-- One section after those before it, up to its end. -/
theorem run_section {name : String} {e : String × Number} {es : List (String × Number)}
    (named : isName name = true) (names : ∀ x ∈ e :: es, isName x.1 = true)
    (written : ∀ x ∈ e :: es, isWritten x.2 = true) {rest : List Char} (next : StartsLine rest)
    {s : Scan} (fresh : s.keys = []) {i l : Nat} {toks : List Token} {indent : Int}
    {outer : List Int}
    (settled : s.settled = ⟨⟨name.toList ++ ':' :: '\n' :: (lineChars (e :: es) ++ rest), i, l, 0⟩,
      toks, 0, indent, outer, true, []⟩)
    (le : indent ≤ 0) (fuel : Nat) :
    ∃ j m, s.run (fuel + (3 * (es.length + 1) + 2)) =
      run ⟨⟨rest, j, m, 0⟩,
        ((e :: es).flatMap entryTokens).reverse ++ .blockMappingStart :: .value ::
          .scalar name true :: .key :: (if indent < 0 then .blockMappingStart :: toks else toks),
        0, 2, 0 :: (if indent < 0 then indent :: outer else outer), true, []⟩ fuel := by
  obtain ⟨word, short, _⟩ := name_facts named
  rw [lineChars_cons] at settled
  have key := run_key fresh word short settled ((startsLine_name named _).apart i l 0) rfl le
    (fuel + 3 * (es.length + 1))
  have first := names e List.mem_cons_self
  have zero : ((0 : Nat) : Int) ≤ (2 : Nat) := Int.ofNat_le.mpr (Nat.zero_le 2)
  obtain ⟨j, m, entries⟩ := run_entries (s := afterKey name.toList _ i l 0 toks indent outer) names
    written next rfl (settled_newline (startsLine_name first _).solid zero) zero fuel
  rw [String.ofList_toList] at entries
  exact ⟨j, m, key.trans entries⟩

/-- The steps that a section takes. -/
def steps (part : String × List (String × Number)) : Nat := 3 * part.2.length + 2

/-- The sections after the first one, from the end of that one on. -/
theorem run_sections {parts : List (String × List (String × Number))}
    (sections : ∀ part ∈ parts, IsSection part) (i l : Nat) (toks : List Token) (fuel : Nat) :
    run ⟨⟨sectionChars parts, i, l, 0⟩, toks, 0, 2, [0, -1], true, []⟩
        (fuel + 1 + (parts.map steps).sum) =
      .ok (toks.reverse ++ .blockEnd :: (parts.flatMap sectionTokens ++ [.blockEnd])) := by
  induction parts generalizing i l toks with
  | nil =>
    have ended : run ⟨⟨sectionChars [], i, l, 0⟩, toks, 0, 2, [0, -1], true, []⟩ (fuel + 1) =
      .ok (Token.blockEnd :: .blockEnd :: toks).reverse := rfl
    rw [List.map_nil, List.sum_nil, Nat.add_zero, ended, List.reverse_cons, List.reverse_cons,
      List.append_assoc]
    rfl
  | cons part parts ih =>
    obtain ⟨name, entries⟩ := part
    obtain ⟨named, some, names, written, _⟩ := sections _ List.mem_cons_self
    obtain ⟨e, es, rfl⟩ := List.exists_cons_of_ne_nil some
    have others : ∀ part ∈ parts, IsSection part :=
      fun part member => sections part (List.mem_cons_of_mem _ member)
    -- The name at the first column closes the block of the section before it.
    have settled : settled ⟨⟨sectionChars ((name, e :: es) :: parts), i, l, 0⟩, toks, 0, 2, [0, -1],
        true, []⟩ =
        ⟨⟨sectionChars ((name, e :: es) :: parts), i, l, 0⟩, .blockEnd :: toks, 0, 0, [-1], true,
          []⟩ := by
      rw [Scan.settled, skipBlank_here (startsLine_sections sections).solid]
      rfl
    rw [sectionChars_cons] at settled ⊢
    obtain ⟨j, m, first⟩ := run_section named names written (startsLine_sections others) rfl settled
      (Int.le_refl 0) (fuel + 1 + (parts.map steps).sum)
    rw [List.map_cons, List.sum_cons, Nat.add_comm (steps _), ← Nat.add_assoc]
    refine Eq.trans first ((ih others j m _).trans ?_)
    simp [sectionTokens]

end Scan

/-- No step is taken without a character. -/
theorem steps_le (parts : List (String × List (String × Number))) :
    (parts.map Scan.steps).sum ≤ (sectionChars parts).length := by
  have lines (entries : List (String × Number)) :
      3 * entries.length ≤ (lineChars entries).length := by
    induction entries with
    | nil => exact Nat.le_refl 0
    | cons e es ih =>
      have whole := congrArg List.length (lineChars_cons e es [])
      simp only [List.append_nil, List.length_append, List.length_cons] at whole ⊢
      omega
  induction parts with
  | nil => exact Nat.le_refl 0
  | cons part parts ih =>
    have entries := lines part.2
    rw [List.map_cons, List.sum_cons, Scan.steps, sectionChars_cons]
    simp only [List.length_append, List.length_cons]
    omega

/-- A character of a text of sections. -/
def isLineChar (c : Char) : Bool := isPrintable c || c == '\n'

theorem lineChar_of_plainWord {word : List Char} (is : isPlainWord word = true) :
    ∀ c ∈ word, isLineChar c = true := by
  intro c member
  rw [isLineChar, (wordChar_facts (wordChar_of_plainWord is c member)).1]
  rfl

theorem lineChar_lines {entries : List (String × Number)}
    (names : ∀ e ∈ entries, isName e.1 = true) (written : ∀ e ∈ entries, isWritten e.2 = true) :
    ∀ c ∈ lineChars entries, isLineChar c = true := by
  induction entries with
  | nil => nofun
  | cons e es ih =>
    have name := lineChar_of_plainWord (name_facts (names e List.mem_cons_self)).1
    have value := lineChar_of_plainWord (written e List.mem_cons_self)
    have later := ih (fun x member => names x (List.mem_cons_of_mem e member))
      fun x member => written x (List.mem_cons_of_mem e member)
    have text := lineChars_cons e es []
    rw [List.append_nil, List.append_nil] at text
    rw [text]
    have blank : ∀ c ∈ List.replicate 2 ' ', isLineChar c = true := by
      intro c member
      rw [List.eq_of_mem_replicate member]
      rfl
    simp only [List.forall_mem_append, List.forall_mem_cons]
    exact ⟨blank, name, rfl, rfl, value, rfl, later⟩

theorem lineChar_sections {parts : List (String × List (String × Number))}
    (sections : ∀ part ∈ parts, IsSection part) :
    ∀ c ∈ sectionChars parts, isLineChar c = true := by
  induction parts with
  | nil => nofun
  | cons part parts ih =>
    obtain ⟨named, _, names, written, _⟩ := sections part List.mem_cons_self
    have later := ih fun x member => sections x (List.mem_cons_of_mem part member)
    rw [sectionChars_cons]
    simp only [List.forall_mem_append, List.forall_mem_cons]
    exact ⟨lineChar_of_plainWord (name_facts named).1, rfl, rfl, lineChar_lines names written,
      later⟩

theorem lineChar_facts {c : Char} (line : isLineChar c = true) :
    isAllowed c = true ∧ c ≠ byteOrderMark := by
  rw [isLineChar, Bool.or_eq_true, beq_iff_eq] at line
  rcases line with printable | rfl
  · refine ⟨?_, ne_of_beq_false (isBreak_printable printable).2⟩
    rw [isPrintable] at printable
    simp only [isAllowed, printable, Bool.or_true, Bool.true_or]
  · decide

theorem basic_of_lineChar {c : Char} (line : isLineChar c = true) :
    c.toNat < 128 ∧ c ≠ '\r' := by
  rw [isLineChar, Bool.or_eq_true, beq_iff_eq] at line
  rcases line with printable | rfl
  · refine ⟨basic_of_printable printable, ?_⟩
    rintro rfl
    exact nomatch printable
  · decide

/-- The tokens of a text of sections are those of a mapping of mappings. -/
theorem tokens_sections {parts : List (String × List (String × Number))} (some : parts ≠ [])
    (sections : ∀ part ∈ parts, IsSection part) :
    tokens (sectionsText parts).toList = .ok (sectionsTokens parts) := by
  have chars := lineChar_sections sections
  have allowed : (sectionChars parts).all isAllowed = true :=
    List.all_eq_true.mpr fun c member => (lineChar_facts (chars c member)).1
  have noMark : Cursor.startsWith ⟨sectionChars parts, 0, 0, 0⟩ byteOrderMark = false := by
    rw [Cursor.startsWith, Cursor.peek, ← List.head?_eq_getElem?, beq_eq_false_iff_ne]
    exact fun first => (lineChar_facts (chars _ (List.mem_of_head? first))).2 rfl
  have enough := steps_le parts
  have start : tokens (sectionsText parts).toList =
      Scan.run ⟨⟨sectionChars parts, 0, 0, 0⟩, [], 0, -1, [], true, []⟩
        ((sectionChars parts).length + 2) := by
    rw [toList_sectionsText, tokens, allowed]
    simp only [noMark]
    rfl
  obtain ⟨⟨name, entries⟩, parts, rfl⟩ := List.exists_cons_of_ne_nil some
  obtain ⟨named, entered, names, written, _⟩ := sections _ List.mem_cons_self
  obtain ⟨e, es, rfl⟩ := List.exists_cons_of_ne_nil entered
  have others : ∀ part ∈ parts, IsSection part :=
    fun part member => sections part (List.mem_cons_of_mem _ member)
  have settled : Scan.settled ⟨⟨sectionChars ((name, e :: es) :: parts), 0, 0, 0⟩, [], 0, -1, [],
      true, []⟩ =
      ⟨⟨sectionChars ((name, e :: es) :: parts), 0, 0, 0⟩, [], 0, -1, [], true, []⟩ :=
    Scan.settled_solid (n := 0) (startsLine_sections sections).solid (by decide)
  obtain ⟨fuel, fuels⟩ : ∃ fuel, (sectionChars ((name, e :: es) :: parts)).length + 2 =
      fuel + 1 + (parts.map Scan.steps).sum + Scan.steps (name, e :: es) := by
    rw [List.map_cons, List.sum_cons] at enough
    obtain ⟨spare, whole⟩ := Nat.le.dest enough
    exact ⟨spare + 1, by omega⟩
  rw [start, fuels]
  rw [sectionChars_cons] at settled ⊢
  obtain ⟨j, m, first⟩ := Scan.run_section named names written (startsLine_sections others) rfl
    settled (by decide) (fuel + 1 + (parts.map Scan.steps).sum)
  refine Eq.trans first ((Scan.run_sections others j m _ fuel).trans ?_)
  simp [sectionsTokens, sectionTokens]

end DesignGauge.Yaml
