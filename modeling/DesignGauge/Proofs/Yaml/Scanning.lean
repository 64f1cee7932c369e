import DesignGauge.Yaml.Token

/-!
# Scanning lines of a block

A line of a block is a word, a colon and what the word stands for. The scan takes it in a few
steps: one over the word, which may be a key, one over the colon, which makes it a key, and one
over a value with the start of the next line.

Results:
1. `plainScalar_of_joint`: a word up to a pause is a plain scalar.
2. `Scan.run_key`: a word and a colon.
3. `Scan.run_value`: a value and the end of its line.
-/

namespace DesignGauge.Yaml

open Text

/-! ## Characters and words -/

/-- A character of one line. -/
def isPrintable (c : Char) : Bool := 0x20 ≤ c.toNat && c.toNat ≤ 0x7E

/-- A character that means nothing inside a word. -/
def isWordChar (c : Char) : Bool := isPrintable c && c != ' ' && c != ':' && c != '#'

/-- What holds of all basic characters of a class can be looked up. -/
theorem of_basic (p q : Char → Bool)
    (table : ∀ n < 128, p (Char.ofNat n) = true → q (Char.ofNat n) = true) {c : Char}
    (basic : c.toNat < 128) (inside : p c = true) : q c = true := by
  have here := table c.toNat basic
  rw [Char.ofNat_toNat] at here
  exact here inside

theorem basic_of_printable {c : Char} (printable : isPrintable c = true) : c.toNat < 128 := by
  rw [isPrintable, Bool.and_eq_true, decide_eq_true_eq, decide_eq_true_eq] at printable
  exact Nat.lt_of_le_of_lt printable.2 (by decide)

theorem isBreak_printable {c : Char} (printable : isPrintable c = true) :
    isBreak c = false ∧ (c == byteOrderMark) = false := by
  have neither := of_basic isPrintable (fun c => !isBreak c && !(c == byteOrderMark))
    (by decide +kernel) (basic_of_printable printable) printable
  rwa [Bool.and_eq_true, Bool.not_eq_true', Bool.not_eq_true'] at neither

/-- A text does not go on with a blank or a comment. -/
def StartsSolid (rest : List Char) : Prop :=
  ∀ c ∈ rest.head?, c ≠ ' ' ∧ c ≠ '#' ∧ isBreak c = false

theorem wordChar_facts {c : Char} (inner : isWordChar c = true) :
    isPrintable c = true ∧ c ≠ ' ' ∧ c ≠ ':' ∧ c ≠ '#' := by
  simpa only [isWordChar, Bool.and_eq_true, bne_iff_ne, and_assoc] using inner

theorem solid_of_wordChar {c : Char} {rest : List Char} (inner : isWordChar c = true) :
    StartsSolid (c :: rest) := by
  rintro _ ⟨⟩
  obtain ⟨printable, notSpace, _, notComment⟩ := wordChar_facts inner
  exact ⟨notSpace, notComment, (isBreak_printable printable).1⟩

/-- A plain scalar without blanks. -/
def isPlainWord : List Char → Bool
  | [] => false
  | c :: rest => (c :: rest).all isWordChar && (!Scan.isMark c || (c == '-' && !rest.isEmpty))

theorem wordChar_of_plainWord {word : List Char} (is : isPlainWord word = true) :
    ∀ c ∈ word, isWordChar c = true := by
  cases word with
  | nil => exact nomatch is
  | cons c rest => exact List.all_eq_true.mp (Bool.and_eq_true_iff.mp is).1

theorem ne_nil_of_plainWord {word : List Char} (is : isPlainWord word = true) : word ≠ [] := by
  rintro rfl
  exact nomatch is

theorem solid_of_plainWord {word : List Char} (is : isPlainWord word = true) (rest : List Char) :
    StartsSolid (word ++ rest) := by
  obtain ⟨c, more, rfl⟩ := List.exists_cons_of_ne_nil (ne_nil_of_plainWord is)
  exact solid_of_wordChar (wordChar_of_plainWord is c List.mem_cons_self)

/-! ## Moving over a line -/

namespace Cursor

theorem skip_printable {word : List Char} (line : ∀ c ∈ word, isPrintable c = true)
    (rest : List Char) (i l k : Nat) :
    skip ⟨word ++ rest, i, l, k⟩ word.length = ⟨rest, i + word.length, l, k + word.length⟩ := by
  induction word generalizing i k with
  | nil => rfl
  | cons c word ih =>
    obtain ⟨notBreak, notMark⟩ := isBreak_printable (line c List.mem_cons_self)
    have past : step ⟨c :: word ++ rest, i, l, k⟩ = ⟨word ++ rest, i + 1, l, k + 1⟩ := by
      simp only [step, List.cons_append, notBreak, notMark, Bool.false_eq_true, if_false]
    rw [List.length_cons, skip, past, ih fun d member => line d (List.mem_cons_of_mem c member)]
    simp only [Nat.add_assoc, Nat.add_comm 1]

theorem takeWhile_spaces (n : Nat) {rest : List Char} (solid : ∀ c ∈ rest.head?, c ≠ ' ')
    (i l k : Nat) :
    takeWhile ⟨List.replicate n ' ' ++ rest, i, l, k⟩ (· == ' ') =
      (List.replicate n ' ', ⟨rest, i + n, l, k + n⟩) := by
  have none : rest.takeWhile (· == ' ') = [] := by
    cases rest with
    | nil => rfl
    | cons c rest =>
      rw [List.takeWhile_cons, if_neg]
      exact fun space => solid c rfl (beq_iff_eq.mp space)
  have run : (List.replicate n ' ' ++ rest).takeWhile (· == ' ') = List.replicate n ' ' := by
    rw [List.takeWhile_append_of_pos fun c member => by simp [List.eq_of_mem_replicate member],
      none, List.append_nil]
  have blank : ∀ c ∈ List.replicate n ' ', isPrintable c = true := by
    intro c member
    rw [List.eq_of_mem_replicate member]
    decide
  have past := skip_printable blank rest i l k
  rw [List.length_replicate] at past
  simp only [takeWhile, run, List.length_replicate, past]

theorem skipSpaces_solid (n : Nat) {rest : List Char} (solid : ∀ c ∈ rest.head?, c ≠ ' ')
    (i l k : Nat) :
    skipSpaces ⟨List.replicate n ' ' ++ rest, i, l, k⟩ = ⟨rest, i + n, l, k + n⟩ := by
  rw [skipSpaces, skipWhile, takeWhile_spaces n solid]

theorem hasMark_of_ne {c mark : Char} (other : c ≠ mark) (rest : List Char) (i l k : Nat) :
    hasMark ⟨c :: rest, i, l, k⟩ mark = false := by
  simp only [hasMark, List.take_succ_cons, List.cons_beq_cons, beq_false_of_ne other,
    Bool.false_and]

theorem atSeparator_of_ne {c : Char} (dash : c ≠ '-') (dot : c ≠ '.') (rest : List Char)
    (i l k : Nat) : atSeparator ⟨c :: rest, i, l, k⟩ = false := by
  rw [atSeparator, hasMark_of_ne dash, hasMark_of_ne dot]
  rfl

theorem lineBreak_solid {c : Cursor} (solid : ∀ d ∈ c.rest.head?, isBreak d = false) :
    c.lineBreak = ([], c) := by
  obtain ⟨rest, i, l, k⟩ := c
  cases rest with
  | nil => rfl
  | cons d rest =>
    rw [lineBreak]
    simp only [solid d rfl, Bool.false_eq_true, if_false]

end Cursor

/-! ## Plain scalars -/

theorem endsWord_wordChar {c : Char} (inner : isWordChar c = true) : endsWord (some c) = false := by
  obtain ⟨printable, notSpace, _, _⟩ := wordChar_facts inner
  unfold endsWord
  split
  · next tab =>
    cases tab
    exact nomatch printable
  · unfold endsPart
    split
    · next space => exact absurd (Option.some.inj space) notSpace
    · exact (isBreak_printable printable).1

theorem pausesPlain_wordChar {c : Char} (inner : isWordChar c = true) (rest : List Char) :
    pausesPlain false (c :: rest) = false := by
  unfold pausesPlain
  split
  · next same => exact nomatch same
  · next same => exact absurd (List.cons.inj same).1 (wordChar_facts inner).2.2.1
  · next same =>
    obtain ⟨rfl, rfl⟩ := List.cons.inj same
    rw [Bool.false_and, Bool.or_false, endsWord_wordChar inner]

theorem plainRun_word {word rest : List Char} (inner : ∀ c ∈ word, isWordChar c = true)
    (pause : pausesPlain false rest = true) : plainRun false (word ++ rest) = word := by
  induction word with
  | nil =>
    cases rest with
    | nil => rfl
    | cons c rest => rw [List.nil_append, plainRun, if_pos pause]
  | cons c word ih =>
    rw [List.cons_append, plainRun,
      if_neg (by rw [pausesPlain_wordChar (inner c List.mem_cons_self)]; exact Bool.false_ne_true),
      ih fun d member => inner d (List.mem_cons_of_mem c member)]

/-- A word is a plain scalar, if what comes after its pause does not go on with it. -/
theorem plainScalar_of_joint {word rest next : List Char} {i l k : Nat} {indent : Int}
    {after : Cursor} {broken : Bool} (some : word ≠ []) (inner : ∀ c ∈ word, isWordChar c = true)
    (pause : pausesPlain false rest = true)
    (joint : plainJoint ⟨rest, i + word.length, l, k + word.length⟩ = (next, after, broken))
    (ends : next = [] ∨ (after.column : Int) < indent + 1) :
    plainScalar false indent ⟨word ++ rest, i, l, k⟩ = ⟨word, after, broken⟩ := by
  have past := Cursor.skip_printable (fun c member => (wordChar_facts (inner c member)).1)
    rest i l k
  have notComment : Cursor.startsWith ⟨word ++ rest, i, l, k⟩ '#' = false := by
    obtain ⟨c, word, rfl⟩ := List.exists_cons_of_ne_nil some
    have other := (wordChar_facts (inner c List.mem_cons_self)).2.2.2
    rw [Cursor.startsWith, beq_eq_false_iff_ne]
    exact fun same => other (Option.some.inj same)
  have stops : (next.isEmpty || after.startsWith '#' ||
      (!false && decide ((after.column : Int) < indent + 1))) = true := by
    rcases ends with rfl | left
    · rfl
    · rw [decide_eq_true left]
      exact Bool.or_true _
  rw [plainScalar, plainRest]
  simp only [plainRun_word inner pause, notComment, List.isEmpty_eq_false_iff.mpr some, past, joint,
    stops, Bool.or_self, Bool.false_eq_true, if_false, if_true, List.append_nil, List.nil_append]

theorem plainJoint_colon (rest : List Char) (i l k : Nat) :
    plainJoint ⟨':' :: rest, i, l, k⟩ = ([], ⟨':' :: rest, i, l, k⟩, false) := by
  rw [plainJoint]
  rw [show Cursor.takeWhile ⟨':' :: rest, i, l, k⟩ (· == ' ') = ([], ⟨':' :: rest, i, l, k⟩) from
    Cursor.takeWhile_spaces 0 (by rintro _ ⟨⟩; decide) i l k]
  simp only [Cursor.lineBreak_solid (c := ⟨':' :: rest, i, l, k⟩) (by rintro _ ⟨⟩; decide)]

/-- The end of a line joins by one space, up to the first character of the next line. -/
theorem plainJoint_newline (n : Nat) {rest : List Char} (solid : StartsSolid rest)
    (apart : Cursor.atSeparator ⟨List.replicate n ' ' ++ rest, 0, 0, 0⟩ = false) (i l k : Nat) :
    plainJoint ⟨'\n' :: (List.replicate n ' ' ++ rest), i, l, k⟩ =
      ([' '], ⟨rest, i + 1 + n, l + 1, n⟩, true) := by
  have here : Cursor.takeWhile ⟨'\n' :: (List.replicate n ' ' ++ rest), i, l, k⟩ (· == ' ') =
      ([], ⟨'\n' :: (List.replicate n ' ' ++ rest), i, l, k⟩) :=
    Cursor.takeWhile_spaces 0 (by rintro _ ⟨⟩; decide) i l k
  have spaces := Cursor.skipSpaces_solid n (fun c member => (solid c member).1) (i + 1) (l + 1) 0
  rw [Nat.zero_add] at spaces
  have stays : Cursor.lineBreak ⟨rest, i + 1 + n, l + 1, n⟩ = ([], ⟨rest, i + 1 + n, l + 1, n⟩) :=
    Cursor.lineBreak_solid fun c member => (solid c member).2.2
  have breaks (fuel : Nat) :
      plainBreaks ⟨List.replicate n ' ' ++ rest, i + 1, l + 1, 0⟩ (fuel + 1) =
        (some [], ⟨rest, i + 1 + n, l + 1, n⟩) := by
    rw [plainBreaks]
    simp only [spaces, stays]
  have notSeparator : Cursor.atSeparator ⟨List.replicate n ' ' ++ rest, i + 1, l + 1, 0⟩ = false :=
    apart
  have ended : Cursor.lineBreak ⟨'\n' :: (List.replicate n ' ' ++ rest), i, l, k⟩ =
      (['\n'], ⟨List.replicate n ' ' ++ rest, i + 1, l + 1, 0⟩) := rfl
  rw [plainJoint, here]
  simp only [ended, notSeparator, breaks, Bool.false_eq_true, if_false]
  rfl

/-! ## Steps of the scan -/

namespace Scan

/-- The scan before its next token: past blanks, with the blocks closed that end before it. -/
def settled (s : Scan) : Scan :=
  let t := s.skipBlank (s.cursor.rest.length + 1)
  t.unwindTo t.cursor.column

theorem keys_skipBlank (s : Scan) (fuel : Nat) : (s.skipBlank fuel).keys = s.keys := by
  induction fuel generalizing s with
  | zero => rfl
  | succ fuel ih =>
    rw [skipBlank]
    split
    · rfl
    · rw [ih]

theorem dropStale_of_nil {s : Scan} (fresh : s.keys = []) : s.dropStale = .ok s := by
  obtain ⟨cursor, toks, flow, indent, outer, allowed, keys⟩ := s
  obtain rfl : keys = [] := fresh
  rfl

theorem run_of_live {s : Scan}
    (live : (s.skipBlank (s.cursor.rest.length + 1)).dropStale =
      .ok (s.skipBlank (s.cursor.rest.length + 1))) (fuel : Nat) :
    s.run (fuel + 1) = match s.settled.cursor.peek with
      | none => s.settled.leaveBlocks >>= fun t => pure t.tokens.reverse
      | some c => s.settled.tokenAt c >>= fun t => t.run fuel := by
  rw [run, live]
  rfl

theorem run_settled {s : Scan} (fresh : s.keys = []) (fuel : Nat) :
    s.run (fuel + 1) = match s.settled.cursor.peek with
      | none => s.settled.leaveBlocks >>= fun t => pure t.tokens.reverse
      | some c => s.settled.tokenAt c >>= fun t => t.run fuel :=
  run_of_live (dropStale_of_nil ((keys_skipBlank s _).trans fresh)) fuel

theorem unwindTo_of_le {s : Scan} {k : Nat} (le : s.indent ≤ k) : s.unwindTo k = s := by
  rw [unwindTo]
  cases outer : s.outer with
  | nil => rfl
  | cons o rest =>
    rw [unwind, if_neg]
    rw [Bool.and_eq_true, decide_eq_true_eq]
    exact fun right => absurd right.2 (by omega)

theorem skipBlank_solid {rest : List Char} (solid : StartsSolid rest) (n i l k fuel : Nat)
    (toks : List Token) (flow : Nat) (indent : Int) (outer : List Int) (allowed : Bool)
    (keys : List (Nat × PossibleKey)) :
    skipBlank ⟨⟨List.replicate n ' ' ++ rest, i, l, k⟩, toks, flow, indent, outer, allowed, keys⟩
        (fuel + 1) =
      ⟨⟨rest, i + n, l, k + n⟩, toks, flow, indent, outer, allowed, keys⟩ := by
  have spaces := Cursor.skipSpaces_solid n (fun c member => (solid c member).1) i l k
  have notComment : Cursor.startsWith ⟨rest, i + n, l, k + n⟩ '#' = false := by
    rw [Cursor.startsWith, beq_eq_false_iff_ne]
    intro comment
    rw [Cursor.peek, ← List.head?_eq_getElem?] at comment
    exact (solid '#' comment).2.1 rfl
  have stays : Cursor.lineBreak ⟨rest, i + n, l, k + n⟩ = ([], ⟨rest, i + n, l, k + n⟩) :=
    Cursor.lineBreak_solid fun c member => (solid c member).2.2
  rw [skipBlank]
  simp only [spaces, notComment, Bool.false_eq_true, if_false, stays]

theorem skipBlank_here {s : Scan} (solid : StartsSolid s.cursor.rest) (fuel : Nat) :
    s.skipBlank (fuel + 1) = s := by
  obtain ⟨⟨rest, i, l, k⟩, toks, flow, indent, outer, allowed, keys⟩ := s
  exact skipBlank_solid solid 0 i l k fuel toks flow indent outer allowed keys

/-- A scan whose text goes on with a word, after some spaces. -/
theorem settled_solid {rest : List Char} (solid : StartsSolid rest) {n i l k : Nat}
    {toks : List Token} {indent : Int} {outer : List Int} {allowed : Bool}
    (le : indent ≤ (k + n : Nat)) :
    settled ⟨⟨List.replicate n ' ' ++ rest, i, l, k⟩, toks, 0, indent, outer, allowed, []⟩ =
      ⟨⟨rest, i + n, l, k + n⟩, toks, 0, indent, outer, allowed, []⟩ := by
  rw [settled, skipBlank_solid solid]
  exact unwindTo_of_le le

/-- At the end of a line a key may start on the next one. -/
theorem settled_newline {rest : List Char} (solid : StartsSolid rest) {n i l k : Nat}
    {toks : List Token} {indent : Int} {outer : List Int} {allowed : Bool}
    (le : indent ≤ n) :
    settled ⟨⟨'\n' :: (List.replicate n ' ' ++ rest), i, l, k⟩, toks, 0, indent, outer, allowed,
        []⟩ =
      ⟨⟨rest, i + 1 + n, l + 1, n⟩, toks, 0, indent, outer, true, []⟩ := by
  have ended (fuel : Nat) :
      skipBlank ⟨⟨'\n' :: (List.replicate n ' ' ++ rest), i, l, k⟩, toks, 0, indent, outer, allowed,
        []⟩ (fuel + 1) =
      skipBlank ⟨⟨List.replicate n ' ' ++ rest, i + 1, l + 1, 0⟩, toks, 0, indent, outer,
        allowed || !false, []⟩ fuel := rfl
  rw [settled, ended, List.length_cons, skipBlank_solid solid, Nat.zero_add, Bool.not_false,
    Bool.or_true]
  exact unwindTo_of_le le

/-! ### Words -/

theorem tokenAt_plain {s : Scan} {c : Char} {rest : List Char} (text : s.cursor.rest = c :: rest)
    (starts : isMark c = false ∨ (c = '-' ∧ endsWord rest.head? = false))
    (apart : s.cursor.column ≠ 0 ∨ s.cursor.atSeparator = false) : s.tokenAt c = s.plain := by
  have ahead : s.cursor.peek 1 = rest.head? := by
    rw [Cursor.peek, text, List.head?_eq_getElem?]
    rfl
  have notSeparator : ((s.cursor.column == 0) && s.cursor.hasMark '-') = false ∧
      ((s.cursor.column == 0) && s.cursor.hasMark '.') = false := by
    rcases apart with right | other
    · rw [beq_false_of_ne right]
      exact ⟨rfl, rfl⟩
    · obtain ⟨dash, dot⟩ := Bool.or_eq_false_iff.mp other
      rw [dash, dot, Bool.and_false]
      exact ⟨rfl, rfl⟩
  unfold tokenAt startsPlain
  rcases starts with ordinary | ⟨rfl, attached⟩
  · have other (x : Char) (mark : isMark x = true) : (c == x) = false := by
      rw [beq_eq_false_iff_ne]
      rintro rfl
      rw [ordinary] at mark
      exact nomatch mark
    simp only [notSeparator.1, notSeparator.2, other '%' (by decide), other '[' (by decide),
      other '\x7b' (by decide), other ']' (by decide), other '\x7d' (by decide),
      other ',' (by decide), other '-' (by decide), other '?' (by decide), other ':' (by decide),
      other '*' (by decide), other '&' (by decide), other '!' (by decide), other '|' (by decide),
      other '>' (by decide), other '"' (by decide), other apostrophe (by decide), ordinary,
      Bool.false_and, Bool.false_eq_true, if_false, Bool.or_self, Bool.not_false, Bool.true_or,
      if_true]
  · simp only [notSeparator.1, notSeparator.2, ahead, attached]
    rfl

/-- A plain scalar may be a key where one is allowed. -/
theorem plain_of_fresh (c : Cursor) (toks : List Token) (indent : Int) (outer : List Int)
    (allowed : Bool) :
    plain ⟨c, toks, 0, indent, outer, allowed, []⟩ =
      .ok ⟨(plainScalar false indent c).cursor,
        .scalar (String.ofList (plainScalar false indent c).value) true :: toks, 0, indent, outer,
        (plainScalar false indent c).keyAllowed,
        if allowed then [(0, ⟨toks.length, indent == c.column, c.index, c.line, c.column⟩)]
        else []⟩ := by
  cases allowed with
  | false => rfl
  | true => rfl

/-- At a word the next token is a plain scalar. -/
theorem run_plain {s t : Scan} (fresh : s.keys = []) {word rest : List Char}
    (is : isPlainWord word = true) (text : s.settled.cursor.rest = word ++ rest)
    (apart : s.settled.cursor.column ≠ 0 ∨ s.settled.cursor.atSeparator = false)
    (read : s.settled.plain = .ok t) (fuel : Nat) : s.run (fuel + 1) = t.run fuel := by
  have inner := wordChar_of_plainWord is
  obtain ⟨c, more, rfl⟩ := List.exists_cons_of_ne_nil (ne_nil_of_plainWord is)
  have first : s.settled.cursor.peek = some c := by
    rw [Cursor.peek, text]
    rfl
  rw [isPlainWord, Bool.and_eq_true, Bool.or_eq_true, Bool.not_eq_true', Bool.and_eq_true,
    beq_iff_eq, Bool.not_eq_true'] at is
  have starts : isMark c = false ∨ (c = '-' ∧ endsWord (more ++ rest).head? = false) := by
    rcases is.2 with ordinary | ⟨dash, some⟩
    · exact .inl ordinary
    · obtain ⟨d, last, rfl⟩ := List.exists_cons_of_ne_nil (List.isEmpty_eq_false_iff.mp some)
      exact .inr ⟨dash, endsWord_wordChar (inner d (by simp))⟩
  rw [run_settled fresh, first]
  show (s.settled.tokenAt c >>= fun t => t.run fuel) = t.run fuel
  rw [tokenAt_plain text starts apart, read]
  rfl

/-- The scan at a colon after a word that may be a key. -/
def atColon (word rest : List Char) (i l k : Nat) (toks : List Token) (indent : Int)
    (outer : List Int) : Scan :=
  ⟨⟨':' :: rest, i + word.length, l, k + word.length⟩, .scalar (String.ofList word) true :: toks, 0,
    indent, outer, false, [(0, ⟨toks.length, indent == k, i, l, k⟩)]⟩

/-- The scan after a key, which opens a block to the right of the innermost one. -/
def afterKey (word rest : List Char) (i l k : Nat) (toks : List Token) (indent : Int)
    (outer : List Int) : Scan :=
  ⟨⟨rest, i + word.length + 1, l, k + word.length + 1⟩,
    .value :: .scalar (String.ofList word) true :: .key ::
      (if indent < k then .blockMappingStart :: toks else toks), 0, k,
    if indent < k then indent :: outer else outer, false, []⟩

theorem tokenAt_colon {s : Scan} {rest : List Char} (text : s.cursor.rest = ':' :: rest)
    (pause : endsWord rest.head? = true) : s.tokenAt ':' = s.valueMark := by
  have alone : endsWord (s.cursor.peek 1) = true := by
    rw [Cursor.peek, text, List.getElem?_cons_succ, ← List.head?_eq_getElem?, pause]
  have notMark (mark : Char) (other : ':' ≠ mark) : s.cursor.hasMark mark = false := by
    obtain ⟨⟨_, i, l, k⟩, _⟩ := s
    cases text
    exact Cursor.hasMark_of_ne other rest i l k
  unfold tokenAt
  simp only [notMark '-' (by decide), notMark '.' (by decide), alone, Bool.and_false, Bool.or_true]
  rfl

theorem insert_behind (c : Cursor) (front toks : List Token) (flow : Nat) (indent : Int)
    (outer : List Int) (allowed : Bool) (keys : List (Nat × PossibleKey)) (t : Token) :
    insert ⟨c, front ++ toks, flow, indent, outer, allowed, keys⟩ toks.length t =
      ⟨c, front ++ t :: toks, flow, indent, outer, allowed, keys⟩ := by
  simp only [insert, List.length_append, Nat.add_sub_cancel, List.take_left, List.drop_left]

/-- The scan at the colon, with the word in front of it known as a key. -/
def keyed (word rest : List Char) (i l k : Nat) (toks : List Token) (indent : Int)
    (outer : List Int) : Scan :=
  ⟨⟨':' :: rest, i + word.length, l, k + word.length⟩,
    [.scalar (String.ofList word) true, .key] ++ toks, 0, indent, outer, false, []⟩

theorem valueMark_atColon {word rest : List Char} {i l k : Nat} {toks : List Token} {indent : Int}
    {outer : List Int} (le : indent ≤ k) :
    valueMark (atColon word rest i l k toks indent outer) =
      .ok (afterKey word rest i l k toks indent outer) := by
  have key : insert ⟨⟨':' :: rest, i + word.length, l, k + word.length⟩,
      [.scalar (String.ofList word) true] ++ toks, 0, indent, outer, false, []⟩ toks.length .key =
      keyed word rest i l k toks indent outer := insert_behind _ _ toks 0 indent outer false [] .key
  have block : ((keyed word rest i l k toks indent outer).indentAt k).insert toks.length
      .blockMappingStart = ⟨⟨':' :: rest, i + word.length, l, k + word.length⟩,
      [.scalar (String.ofList word) true, .key] ++ .blockMappingStart :: toks, 0, k,
      indent :: outer, false, []⟩ :=
    insert_behind _ _ toks 0 k (indent :: outer) false [] .blockMappingStart
  have marked : valueMark (atColon word rest i l k toks indent outer) =
      .ok (emitOver ((fun t : Scan => if !t.inFlow && t.opens k
          then (t.indentAt k).insert toks.length .blockMappingStart else t)
        (insert ⟨⟨':' :: rest, i + word.length, l, k + word.length⟩,
          [.scalar (String.ofList word) true] ++ toks, 0, indent, outer, false, []⟩
          toks.length .key)) .value 1) := rfl
  rw [marked, key, afterKey]
  dsimp only
  by_cases opened : indent < k
  · have opens : (!(keyed word rest i l k toks indent outer).inFlow &&
        (keyed word rest i l k toks indent outer).opens k) = true := decide_eq_true opened
    rw [if_pos opens, block, if_pos opened, if_pos opened]
    rfl
  · have opens : (!(keyed word rest i l k toks indent outer).inFlow &&
        (keyed word rest i l k toks indent outer).opens k) = false := decide_eq_false opened
    obtain rfl : indent = k := by omega
    rw [opens, if_neg Bool.false_ne_true, if_neg opened, if_neg opened]
    rfl

theorem run_colon {word rest : List Char} {i l k : Nat} {toks : List Token} {indent : Int}
    {outer : List Int} (pause : endsWord rest.head? = true) (short : word.length ≤ 1024)
    (le : indent ≤ k) (fuel : Nat) :
    run (atColon word rest i l k toks indent outer) (fuel + 1) =
      run (afterKey word rest i l k toks indent outer) fuel := by
  have solid : StartsSolid (':' :: rest) := by
    rintro _ ⟨⟩
    decide
  have blank (fuel : Nat) : skipBlank (atColon word rest i l k toks indent outer) (fuel + 1) =
      atColon word rest i l k toks indent outer := skipBlank_here solid fuel
  have live : dropStale (atColon word rest i l k toks indent outer) =
      .ok (atColon word rest i l k toks indent outer) := by
    have near : ¬ i + word.length - i > 1024 := by omega
    simp only [dropStale, atColon, List.any_cons, List.any_nil, bne_self_eq_false, near,
      decide_false, Bool.false_and, Bool.or_self, Bool.false_eq_true, if_false, List.filter_cons,
      Bool.not_false, if_true, List.filter_nil]
  have settled : settled (atColon word rest i l k toks indent outer) =
      atColon word rest i l k toks indent outer := by
    rw [Scan.settled, blank]
    exact unwindTo_of_le (Int.le_trans le (Int.ofNat_le.mpr (Nat.le_add_right k word.length)))
  rw [run_of_live (by rw [blank, live]), settled]
  show (tokenAt _ ':' >>= fun t => t.run fuel) = _
  rw [tokenAt_colon rfl pause, valueMark_atColon le]
  rfl

/-- A word and a colon are a key. -/
theorem run_key {s : Scan} (fresh : s.keys = []) {word rest : List Char} {i l k : Nat}
    {toks : List Token} {indent : Int} {outer : List Int} (is : isPlainWord word = true)
    (short : word.length ≤ 1024)
    (settled : s.settled = ⟨⟨word ++ ':' :: rest, i, l, k⟩, toks, 0, indent, outer, true, []⟩)
    (apart : Cursor.atSeparator ⟨word ++ ':' :: rest, i, l, k⟩ = false)
    (pause : endsWord rest.head? = true) (le : indent ≤ k) (fuel : Nat) :
    s.run (fuel + 2) = run (afterKey word rest i l k toks indent outer) fuel := by
  have pauses : pausesPlain false (':' :: rest) = true := by
    rw [pausesPlain, pause]
    rfl
  have scalar : plainScalar false indent ⟨word ++ ':' :: rest, i, l, k⟩ =
      ⟨word, ⟨':' :: rest, i + word.length, l, k + word.length⟩, false⟩ :=
    plainScalar_of_joint (ne_nil_of_plainWord is) (wordChar_of_plainWord is) pauses
      (plainJoint_colon rest _ l _) (.inl rfl)
  have read : s.settled.plain = .ok (atColon word rest i l k toks indent outer) := by
    rw [settled, plain_of_fresh, scalar]
    rfl
  rw [run_plain fresh is (by rw [settled]) (.inr (by rw [settled]; exact apart)) read]
  exact run_colon pause short le fuel

/-- A value goes to the end of its line; the scan is then at the next line. -/
theorem run_value {word rest : List Char} {n i l k : Nat} {toks : List Token} {indent : Int}
    {outer : List Int} (is : isPlainWord word = true) (solid : StartsSolid rest)
    (apart : Cursor.atSeparator ⟨List.replicate n ' ' ++ rest, 0, 0, 0⟩ = false)
    (right : indent ≤ k + 1) (left : n ≤ indent) (fuel : Nat) :
    run ⟨⟨' ' :: (word ++ '\n' :: (List.replicate n ' ' ++ rest)), i, l, k⟩, toks, 0, indent, outer,
        false, []⟩ (fuel + 1) =
      run ⟨⟨rest, i + 1 + word.length + 1 + n, l + 1, n⟩,
        .scalar (String.ofList word) true :: toks, 0, indent, outer, true, []⟩ fuel := by
  have settled : settled ⟨⟨' ' :: (word ++ '\n' :: (List.replicate n ' ' ++ rest)), i, l, k⟩, toks,
      0, indent, outer, false, []⟩ =
      ⟨⟨word ++ '\n' :: (List.replicate n ' ' ++ rest), i + 1, l, k + 1⟩, toks, 0, indent, outer,
        false, []⟩ :=
    settled_solid (n := 1) (solid_of_plainWord is _) right
  have scalar := plainScalar_of_joint (ne_nil_of_plainWord is) (wordChar_of_plainWord is) rfl
    (plainJoint_newline n solid apart (i + 1 + word.length) l (k + 1 + word.length))
    (.inr (Int.lt_add_one_of_le left))
  refine run_plain rfl is (by rw [settled]) (.inl ?_) ?_ fuel
  · rw [settled]
    exact Nat.succ_ne_zero k
  · rw [settled, plain_of_fresh, scalar]
    rfl

end Scan

end DesignGauge.Yaml
