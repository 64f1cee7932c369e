import DesignGauge.Proofs.Path.Respelling
import Mathlib.Data.List.DropRight

/-!
# Rows of names and signs

A row of names and signs is spelled with any blanks around them, as long as no two names run
together. What a name looks like depends on the kind of names, that is, on the characters that can
be part of one; a sign that can be part of a name does not stand on its own. So the first and the
last lexeme of a row can be read off the ends of a text that spells it.

Results:
1. `Spelled.strip`: blanks at the ends do not matter.
2. `Spelled.sign_inv`, `Spelled.name_inv`: the first lexeme of a text.
3. `Spelled.concat_inv`, `Spelled.getLast?_chars`: the last lexeme of a text.
4. `Spelled.mem_iff`: the characters of a text.
-/

namespace DesignGauge.TypeName

open Text

/-- A kind of names: their characters, and the characters that can be part of a name. -/
class NameKind (ν : Type) where
  chars : ν → List Char
  isPart : Char → Bool
  chars_ne_nil : ∀ n, chars n ≠ []
  isPart_of_mem : ∀ {n c}, c ∈ chars n → isPart c = true
  solid : ∀ {c}, isPart c = true → isBlank c = false

/-- A sign between names. -/
inductive Sign where
  | less | greater | comma | query | left | right | point
  deriving DecidableEq, Repr

/-- The character of a sign. -/
def Sign.char : Sign → Char
  | .less => '<'
  | .greater => '>'
  | .comma => ','
  | .query => '?'
  | .left => '['
  | .right => ']'
  | .point => '.'

theorem Sign.char_injective (s : Sign) {s' : Sign} (same : s.char = s'.char) : s = s' := by
  revert s'
  cases s <;> intro s' <;> cases s' <;> decide

theorem Sign.not_isBlank (s : Sign) : isBlank s.char = false := by
  cases s <;> decide

/-- What stands between blanks or next to each other. -/
inductive Lexeme (ν : Type) where
  | name (name : ν)
  | sign (sign : Sign)

/-- Blanks only. -/
def Gap (gap : List Char) : Prop := ∀ c ∈ gap, isBlank c = true

theorem gap_nil : Gap [] := List.forall_mem_nil _

variable {ν : Type} [NameKind ν]

namespace Lexeme

/-- The characters of a lexeme. -/
def chars : Lexeme ν → List Char
  | .name n => NameKind.chars n
  | .sign s => [s.char]

/-- A lexeme can stand in front of a text: nothing that follows a name directly could be part of
it, and no sign could be part of a name. -/
def fitsBefore : Lexeme ν → List Char → Bool
  | .name _, text => !text.head?.any (NameKind.isPart ν)
  | .sign s, _ => !NameKind.isPart ν s.char

end Lexeme

/-- A text spells some lexemes in order, with any blanks in front of, between and behind them. -/
inductive Spelled : List (Lexeme ν) → List Char → Prop
  | blank {gap : List Char} : Gap gap → Spelled [] gap
  | lexeme {gap text : List Char} {first : Lexeme ν} {rest : List (Lexeme ν)} :
      Gap gap → first.fitsBefore text = true → Spelled rest text →
      Spelled (first :: rest) (gap ++ (first.chars ++ text))

/-! ## Characters -/

theorem NameKind.not_isPart_of_isBlank {c : Char} (blank : isBlank c = true) :
    NameKind.isPart ν c = false := by
  rw [← Bool.not_eq_true]
  intro part
  rw [NameKind.solid part] at blank
  cases blank

namespace Lexeme

variable {l : Lexeme ν}

theorem chars_ne_nil (l : Lexeme ν) : l.chars ≠ [] := by
  cases l with
  | name n => exact NameKind.chars_ne_nil n
  | sign s => exact List.cons_ne_nil _ _

theorem not_isBlank_of_mem {c : Char} (member : c ∈ l.chars) : isBlank c = false := by
  cases l with
  | name n => exact NameKind.solid (NameKind.isPart_of_mem member)
  | sign s =>
    rw [List.mem_singleton.mp member]
    exact s.not_isBlank

/-- A lexeme that holds the character of a sign is that sign, unless it can be part of a name. -/
theorem eq_sign_of_mem {s : Sign} (apart : NameKind.isPart ν s.char = false)
    (member : s.char ∈ l.chars) : l = .sign s := by
  cases l with
  | name n =>
    rw [NameKind.isPart_of_mem member] at apart
    cases apart
  | sign s' =>
    have same : s.char = s'.char := List.mem_singleton.mp member
    rw [s.char_injective same]

theorem fitsBefore_of_prefix {text front : List Char} (fits : l.fitsBefore text = true)
    (inFront : front <+: text) : l.fitsBefore front = true := by
  cases l with
  | sign s => exact fits
  | name n =>
    obtain ⟨back, rfl⟩ := inFront
    cases front with
    | nil => rfl
    | cons c front => exact fits

end Lexeme

/-! ## Texts -/

/-- Two rows of characters of a sort in front of others are the same. -/
theorem append_inj_of_all {p : Char → Bool} {front front' back back' : List Char}
    (same : front ++ back = front' ++ back') (all : ∀ c ∈ front, p c = true)
    (all' : ∀ c ∈ front', p c = true) (ends : back.head?.any p = false)
    (ends' : back'.head?.any p = false) : front = front' ∧ back = back' := by
  have stops {text : List Char} (ends : text.head?.any p = false) : text.takeWhile p = [] := by
    cases text with
    | nil => rfl
    | cons c text => exact List.takeWhile_cons_of_neg (by simpa using ends)
  have taken := congrArg (List.takeWhile p) same
  rw [List.takeWhile_append_of_pos all, List.takeWhile_append_of_pos all', stops ends,
    stops ends', List.append_nil, List.append_nil] at taken
  exact ⟨taken, List.append_cancel_left (taken ▸ same)⟩

namespace Spelled

variable {lexemes : List (Lexeme ν)} {first : Lexeme ν} {text : List Char}

theorem dropWhile (spelled : Spelled lexemes text) : Spelled lexemes (text.dropWhile isBlank) := by
  cases spelled with
  | blank gap =>
    rw [List.dropWhile_eq_nil_iff.mpr gap]
    exact .blank gap_nil
  | @lexeme gap text first rest blank fits spelled =>
    have kept : (first.chars ++ text).dropWhile isBlank = first.chars ++ text := by
      obtain ⟨c, chars, split⟩ := List.exists_cons_of_ne_nil first.chars_ne_nil
      have solid : isBlank c = false := Lexeme.not_isBlank_of_mem (split ▸ List.mem_cons_self)
      rw [split]
      exact List.dropWhile_cons_of_neg (by simp [solid])
    rw [List.dropWhile_append_of_pos blank, kept]
    exact .lexeme gap_nil fits spelled

theorem dropRightWhile (spelled : Spelled lexemes text) :
    Spelled lexemes (dropRightWhile isBlank text) := by
  induction spelled with
  | blank gap =>
    rw [dropRightWhile_of_all gap]
    exact .blank gap_nil
  | @lexeme gap text first rest blank fits spelled ih =>
    obtain ⟨front, c, split⟩ :=
      (List.eq_nil_or_concat first.chars).resolve_left first.chars_ne_nil
    have solid : isBlank c = false := by
      refine Lexeme.not_isBlank_of_mem (l := first) ?_
      rw [split, List.concat_eq_append]
      exact List.mem_concat_self
    have kept : Text.dropRightWhile isBlank (gap ++ (first.chars ++ text)) =
        gap ++ (first.chars ++ Text.dropRightWhile isBlank text) := by
      rw [split, List.concat_eq_append, List.append_assoc, List.singleton_append,
        ← List.append_assoc, dropRightWhile_append_cons solid]
      simp
    rw [kept]
    exact .lexeme blank (Lexeme.fitsBefore_of_prefix fits (List.rdropWhile_prefix isBlank text)) ih

/-- Blanks at the ends do not matter. -/
theorem strip (spelled : Spelled lexemes text) : Spelled lexemes (strip text) :=
  spelled.dropWhile.dropRightWhile

theorem ne_nil (spelled : Spelled (first :: lexemes) text) : text ≠ [] := by
  cases spelled with
  | lexeme => simp [first.chars_ne_nil]

/-- A text has the characters of its lexemes and blanks. -/
theorem mem_iff (spelled : Spelled lexemes text) {c : Char} (solid : isBlank c = false) :
    c ∈ text ↔ ∃ l ∈ lexemes, c ∈ l.chars := by
  have absent {gap : List Char} (blank : Gap gap) : c ∉ gap := by
    intro member
    rw [blank c member] at solid
    cases solid
  induction spelled with
  | blank gap => simp [absent gap]
  | lexeme gap _ _ ih => simp [absent gap, ih]

/-! ## The first lexeme -/

/-- A text without a blank in front starts with the first lexeme. -/
theorem head_inv {c : Char} (spelled : Spelled (first :: lexemes) (c :: text))
    (solid : isBlank c = false) :
    ∃ rest, c :: text = first.chars ++ rest ∧ first.fitsBefore rest = true ∧
      Spelled lexemes rest := by
  generalize whole : c :: text = all at spelled
  cases spelled with
  | @lexeme gap rest _ _ blank fits spelled =>
    cases gap with
    | nil => exact ⟨rest, rfl, fits, spelled⟩
    | cons b gap =>
      obtain ⟨rfl, _⟩ := List.cons.inj whole
      rw [blank c List.mem_cons_self] at solid
      cases solid

/-- A text that starts with a sign spells that sign first, unless it can be part of a name. -/
theorem sign_inv {s : Sign} (apart : NameKind.isPart ν s.char = false)
    (spelled : Spelled lexemes (s.char :: text)) :
    ∃ rest, lexemes = .sign s :: rest ∧ Spelled rest text := by
  cases lexemes with
  | nil =>
    generalize whole : s.char :: text = all at spelled
    cases spelled with
    | blank gap =>
      have blank := gap s.char (whole ▸ List.mem_cons_self)
      rw [s.not_isBlank] at blank
      cases blank
  | cons first lexemes =>
    obtain ⟨rest, split, _, spelled⟩ := spelled.head_inv s.not_isBlank
    have starts : first = .sign s := by
      obtain ⟨c, chars, nonempty⟩ := List.exists_cons_of_ne_nil first.chars_ne_nil
      rw [nonempty] at split
      refine Lexeme.eq_sign_of_mem apart ?_
      rw [nonempty, (List.cons.inj split).1]
      exact List.mem_cons_self
    subst starts
    obtain ⟨_, rfl⟩ := List.cons.inj split
    exact ⟨lexemes, rfl, spelled⟩

/-- A text that starts with some characters of names spells the name of these first. -/
theorem name_inv {n : ν} {front back : List Char}
    (spelled : Spelled (.name n :: lexemes) (front ++ back)) (nonempty : front ≠ [])
    (part : ∀ c ∈ front, NameKind.isPart ν c = true)
    (ends : back.head?.any (NameKind.isPart ν) = false) :
    NameKind.chars n = front ∧ Spelled lexemes back := by
  obtain ⟨c, chars, rfl⟩ := List.exists_cons_of_ne_nil nonempty
  obtain ⟨rest, split, fits, spelled⟩ :=
    spelled.head_inv (NameKind.solid (part c List.mem_cons_self))
  have stops : rest.head?.any (NameKind.isPart ν) = false := by
    simpa [Lexeme.fitsBefore] using fits
  obtain ⟨same, rfl⟩ :=
    append_inj_of_all split part (fun _ member => NameKind.isPart_of_mem member) ends stops
  exact ⟨same.symm, spelled⟩

/-! ## The last lexeme -/

/-- A text without a blank at the end ends with the last lexeme. -/
theorem getLast?_chars (spelled : Spelled lexemes text) {last : Lexeme ν}
    (isLast : last ∈ lexemes.getLast?) {c : Char} (ends : c ∈ text.getLast?)
    (solid : isBlank c = false) : c ∈ last.chars.getLast? := by
  induction spelled with
  | blank gap => cases isLast
  | @lexeme gap text first rest _ _ spelled ih =>
    cases rest with
    | nil =>
      -- what stands behind the last lexeme is blank, so that nothing does
      obtain rfl : first = last := Option.some.inj isLast
      cases text with
      | nil =>
        rwa [List.append_nil, List.getLast?_append_of_ne_nil _ first.chars_ne_nil] at ends
      | cons b text =>
        rw [← List.append_assoc, List.getLast?_append_of_ne_nil _ (List.cons_ne_nil b text)] at ends
        cases spelled with
        | blank gap =>
          rw [gap c (List.mem_of_getLast? ends)] at solid
          cases solid
    | cons next rest =>
      rw [← List.append_assoc, List.getLast?_append_of_ne_nil _ spelled.ne_nil] at ends
      exact ih isLast ends

/-- The last lexeme of a text, the blanks behind it, and a text of the lexemes in front. A name is
set off from what stands in front of it. -/
theorem concat_inv {front : List (Lexeme ν)} {last : Lexeme ν}
    (spelled : Spelled (front ++ [last]) text) :
    ∃ before gap, text = before ++ (last.chars ++ gap) ∧ Gap gap ∧ Spelled front before ∧
      last.fitsBefore gap = true ∧
      ∀ n, last = .name n → ∀ c ∈ before.getLast?, NameKind.isPart ν c = false := by
  generalize row : front ++ [last] = lexemes at spelled
  induction spelled generalizing front with
  | blank => simp at row
  | @lexeme gap text first rest blank fits spelled ih =>
    cases front with
    | nil =>
      obtain ⟨rfl, rfl⟩ := List.cons.inj row
      cases spelled with
      | blank trailing =>
        refine ⟨gap, text, rfl, trailing, .blank blank, fits, fun _ _ c found => ?_⟩
        exact NameKind.not_isPart_of_isBlank (blank c (List.mem_of_getLast? found))
    | cons other front =>
      obtain ⟨rfl, split⟩ := List.cons.inj row
      obtain ⟨before, trailing, rfl, blanks, inFront, ends, apart⟩ := ih split
      refine ⟨gap ++ (other.chars ++ before), trailing, by simp, blanks,
        .lexeme blank (Lexeme.fitsBefore_of_prefix fits (List.prefix_append _ _)) inFront, ends, ?_⟩
      rintro n rfl c found
      cases before with
      | cons d before =>
        rw [← List.append_assoc, List.getLast?_append_cons] at found
        exact apart n rfl c found
      | nil =>
        cases other with
        | sign s =>
          obtain rfl : s.char = c := by simpa [Lexeme.chars] using found
          exact (Bool.not_eq_true' _).mp fits
        | name other =>
          -- two names in a row have a blank between them
          obtain ⟨d, rest, chars⟩ := List.exists_cons_of_ne_nil (NameKind.chars_ne_nil n)
          have part : NameKind.isPart ν d = true :=
            NameKind.isPart_of_mem (n := n) (chars ▸ List.mem_cons_self)
          simp [Lexeme.fitsBefore, Lexeme.chars, chars, part] at fits

/-- A sign can be put behind a text. -/
theorem concat_sign {s : Sign} (apart : NameKind.isPart ν s.char = false)
    (spelled : Spelled lexemes text) : Spelled (lexemes ++ [.sign s]) (text ++ [s.char]) := by
  have fits : (Lexeme.sign s : Lexeme ν).fitsBefore [] = true := (Bool.not_eq_true' _).mpr apart
  induction spelled with
  | blank blank => exact .lexeme blank fits (.blank gap_nil)
  | @lexeme gap text first rest blank fits _ ih =>
    rw [List.append_assoc, List.append_assoc]
    refine .lexeme blank ?_ ih
    cases first with
    | sign _ => exact fits
    | name n =>
      cases text with
      | nil => exact (Bool.not_eq_true' _).mpr apart
      | cons c text => exact fits

end Spelled

end DesignGauge.TypeName
