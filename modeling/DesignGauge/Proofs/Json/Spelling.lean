import DesignGauge.Proofs.Json.Scalars
import Mathlib.Data.List.Forall2

/-!
# Spelled JSON values

A text spells a value when the reader takes exactly that text and gives that value, in front of
whatever may follow a value in a file: a comma, a line end or nothing. Scalars are spelled by what
is written for them, and lists and objects by what is written around the spellings of their parts.
The fuel of the reader is twice the length of the text, since each item takes a call for itself and
one for the list.

Results:
1. `Spelled`: what it is to spell a value; `spelled_int`, `spelled_float`, `spelled_text` and the
   others for scalars.
2. `spelled_list`: items between brackets on lines of their own.
3. `spelled_fields`: members with distinct names between braces.
-/

namespace DesignGauge.Json

open Text Reading

/-! ## Blanks -/

/-- A line end and an indentation. -/
def gap (depth : Nat) : List Char := '\n' :: List.replicate (2 * depth) ' '

/-- Neither a blank nor a closing bracket. -/
def opening (c : Char) : Bool :=
  !(c == ' ' || c == '\t' || c == '\n' || c == '\r' || c == ']' || c == '\x7d')

theorem skipBlanks_gap (depth : Nat) (rest : List Char) :
    skipBlanks (gap depth ++ rest) = skipBlanks rest := by
  have blanks : ∀ c ∈ gap depth, (c == ' ' || c == '\t' || c == '\n' || c == '\r') = true := by
    intro c member
    rcases List.mem_cons.mp member with rfl | space
    · rfl
    · rw [List.eq_of_mem_replicate space]
      rfl
  exact List.dropWhile_append_of_pos blanks

theorem skipBlanks_cons {c : Char}
    (opens : (c == ' ' || c == '\t' || c == '\n' || c == '\r') = false) (rest : List Char) :
    skipBlanks (c :: rest) = c :: rest :=
  List.dropWhile_cons_of_neg (by simp [opens])

/-- What may follow a written value: a comma or a line end. -/
def Follows (rest : List Char) : Prop := ∀ c ∈ rest.head?, c = ',' ∨ c = '\n'

theorem Follows.endsNumber {rest : List Char} (follows : Follows rest) : EndsNumber rest := by
  intro c first
  rcases follows c first with rfl | rfl <;> decide

theorem follows_nil : Follows [] := nofun

theorem follows_comma (rest : List Char) : Follows (',' :: rest) := by
  rintro c ⟨⟩
  exact .inl rfl

theorem follows_gap (depth : Nat) (rest : List Char) : Follows (gap depth ++ rest) := by
  rintro c ⟨⟩
  exact .inr rfl

/-- A text that starts with neither a blank nor a closing bracket. -/
def Opens (text : List Char) : Prop := ∃ c rest, text = c :: rest ∧ opening c = true

theorem Opens.append {text : List Char} (opens : Opens text) (rest : List Char) :
    Opens (text ++ rest) := by
  obtain ⟨c, text, rfl, opens⟩ := opens
  exact ⟨c, text ++ rest, rfl, opens⟩

theorem Opens.skipBlanks {text : List Char} (opens : Opens text) : skipBlanks text = text := by
  obtain ⟨c, text, rfl, opens⟩ := opens
  refine skipBlanks_cons ?_ text
  unfold opening at opens
  simp only [Bool.not_eq_true', Bool.or_eq_false_iff] at opens ⊢
  exact opens.1.1

theorem Opens.ne_cons {text : List Char} (opens : Opens text) {right : Char}
    (closes : opening right = false) (after : List Char) : text ≠ right :: after := by
  rintro rfl
  obtain ⟨c, rest, same, opens⟩ := opens
  rw [← (List.cons.inj same).1, closes] at opens
  exact nomatch opens

/-! ## Spelled values -/

/-- A text that is read to a value in front of whatever may follow it. -/
structure Spelled (depth : Nat) (text : List Char) (value : Datum) : Prop where
  opens : Opens text
  whole : Whole text
  reads : ∀ {fuel : Nat} {rest : List Char}, 2 * text.length ≤ fuel → Follows rest →
    readValue .file depth fuel (text ++ rest) = .ok (value, rest)

/-! ### Scalars -/

section Scalars

variable (depth : Nat)

/-- A text that starts with no quote and no bracket is a scalar. -/
theorem readValue_scalar {c : Char} (scalar : c ≠ '"' ∧ c ≠ '[' ∧ c ≠ '\x7b') (fuel : Nat)
    (rest : List Char) :
    readValue .file depth (fuel + 1) (c :: rest) = readScalar .file (c :: rest) := by
  rw [readValue.eq_def]
  simp only
  split
  · next same => exact absurd (List.cons.inj same).1 scalar.1
  · next same => exact absurd (List.cons.inj same).1 scalar.2.1
  · next same => exact absurd (List.cons.inj same).1 scalar.2.2
  · rfl

theorem spelled_scalar {c : Char} {text : List Char} {value : Datum}
    (scalar : c ≠ '"' ∧ c ≠ '[' ∧ c ≠ '\x7b') (opens : opening c = true) (whole : Whole (c :: text))
    (reads : ∀ {rest}, Follows rest → readScalar .file (c :: text ++ rest) = .ok (value, rest)) :
    Spelled depth (c :: text) value where
  opens := ⟨c, text, rfl, opens⟩
  whole := whole
  reads := by
    intro fuel rest bound follows
    obtain ⟨fuel, rfl⟩ : ∃ n, fuel = n + 1 := ⟨fuel - 1, by rw [List.length_cons] at bound; omega⟩
    rw [List.cons_append, readValue_scalar depth scalar, ← List.cons_append, reads follows]

theorem spelled_null : Spelled depth "null".toList .null :=
  spelled_scalar depth (by decide) (by decide) (whole_of_plain (ne_halfMark_of_all rfl))
    fun _ => rfl

theorem spelled_bool (b : Bool) :
    Spelled depth (if b then "true" else "false").toList (.bool b) := by
  cases b
  · exact spelled_scalar depth (by decide) (by decide) (whole_of_plain (ne_halfMark_of_all rfl))
      fun _ => rfl
  · exact spelled_scalar depth (by decide) (by decide) (whole_of_plain (ne_halfMark_of_all rfl))
      fun _ => rfl

/-- What a number can start with. -/
def startsNumber (c : Char) : Bool := c == '-' || isAsciiDigit c

theorem ne_of_startsNumber {c d : Char} (first : startsNumber c = true)
    (other : startsNumber d = false) : c ≠ d := by
  rintro rfl
  rw [first] at other
  exact nomatch other

/-- No word of JSON starts with a digit or a sign. -/
theorem readScalar_number {c : Char} (first : startsNumber c = true) (rest : List Char) :
    readScalar .file (c :: rest) = readNumber .file (c :: rest) := by
  have noWord :
      (literalWords .file).find? (fun entry => entry.1.isPrefixOf (c :: rest)) = none := by
    have notN := (ne_of_startsNumber (d := 'n') first (by decide)).symm
    have notT := (ne_of_startsNumber (d := 't') first (by decide)).symm
    have notF := (ne_of_startsNumber (d := 'f') first (by decide)).symm
    simp [literalWords, Dialect.file, List.isPrefixOf, notN, notT, notF]
  rw [readScalar, noWord]

theorem spelled_number {text : List Char} {value : Datum}
    (first : ∃ c rest, text = c :: rest ∧ startsNumber c = true) (whole : Whole text)
    (reads : ∀ {rest}, EndsNumber rest → readNumber .file (text ++ rest) = .ok (value, rest)) :
    Spelled depth text value := by
  obtain ⟨c, rest, rfl, first⟩ := first
  have opens : opening c = true := by
    by_contra closed
    rw [Bool.not_eq_true, opening, Bool.not_eq_false'] at closed
    simp only [Bool.or_eq_true, beq_iff_eq] at closed
    rcases closed with ((((rfl | rfl) | rfl) | rfl) | rfl) | rfl <;> exact nomatch first
  refine spelled_scalar depth ⟨?_, ?_, ?_⟩ opens whole fun follows => ?_
  · exact ne_of_startsNumber first (by decide)
  · exact ne_of_startsNumber first (by decide)
  · exact ne_of_startsNumber first (by decide)
  · rw [List.cons_append, readScalar_number first, ← List.cons_append, reads follows.endsNumber]

theorem startsNumber_numeral (negative : Bool) (n : Numeral) :
    ∃ c rest, minusText negative ++ n.text = c :: rest ∧ startsNumber c = true := by
  cases negative with
  | true => exact ⟨'-', n.text, rfl, rfl⟩
  | false =>
    obtain ⟨c, rest, text, digit⟩ := numeral_first n
    refine ⟨c, rest, ?_, ?_⟩
    · rw [text]
      rfl
    · rw [startsNumber, digit, Bool.or_true]

theorem spelled_int {i : Int} (low : -signedBound ≤ i) (high : i < unsignedBound) :
    Spelled depth (toString i).toList (.int i) := by
  refine spelled_number depth ?_ ?_ fun ends => readNumber_int low high ends
  · rw [toList_toString_int]
    exact startsNumber_numeral _ _
  · rw [toList_toString_int]
    exact whole_numeral _ _

theorem spelled_float (x : FiniteDouble) (layout : Layout) :
    Spelled depth (Double.render layout (.finite x)).toList (.float (.finite x)) := by
  obtain ⟨n, spelled, _⟩ := exists_numeral_render x layout
  refine spelled_number depth ?_ ?_ fun ends => readNumber_float x layout ends
  · rw [spelled]
    exact startsNumber_numeral _ _
  · rw [spelled]
    exact whole_numeral _ _

theorem encodeText_toList (s : String) :
    (encodeText s).toList = '"' :: (s.toList.flatMap escapedChar ++ ['"']) := by
  rw [encodeText, String.toList_ofList]
  rfl

theorem whole_encodeText {s : String} (whole : Whole s.toList) : Whole (encodeText s).toList := by
  rw [encodeText_toList]
  exact .char (by decide) ((whole_escaped whole).append (whole_of_plain (ne_halfMark_of_all rfl)))

theorem spelled_text {s : String} (whole : Whole s.toList) :
    Spelled depth (encodeText s).toList (.text s) := by
  refine ⟨⟨_, _, encodeText_toList s, by decide⟩, whole_encodeText whole, ?_⟩
  rw [encodeText_toList]
  intro fuel rest bound follows
  obtain ⟨fuel, rfl⟩ : ∃ n, fuel = n + 1 := ⟨fuel - 1, by rw [List.length_cons] at bound; omega⟩
  rw [List.cons_append, List.append_assoc, List.singleton_append, readValue, readString_escaped,
    List.reverse_nil, List.nil_append, String.ofList_toList]
  rfl

end Scalars

/-! ### Lists -/

section Lists

variable {depth : Nat}

/-- Items with a comma and a line end between them. -/
def joined (depth : Nat) (parts : List (List Char)) : List Char :=
  List.intercalate (',' :: gap depth) parts

theorem joined_singleton (depth : Nat) (part : List Char) : joined depth [part] = part := by
  simp [joined, List.intercalate]

theorem joined_cons_cons (depth : Nat) (part next : List Char) (parts : List (List Char)) :
    joined depth (part :: next :: parts) =
      part ++ ',' :: (gap depth ++ joined depth (next :: parts)) := by
  simp [joined, List.intercalate]

theorem joined_append (depth : Nat) (part next : List Char) (parts : List (List Char))
    (rest : List Char) :
    joined depth (part :: next :: parts) ++ rest =
      part ++ ',' :: (gap depth ++ (joined depth (next :: parts) ++ rest)) := by
  rw [joined_cons_cons, List.append_assoc, List.cons_append, List.append_assoc]

theorem length_joined (depth : Nat) (part next : List Char) (parts : List (List Char)) :
    part.length + (joined depth (next :: parts)).length + 2 ≤
      (joined depth (part :: next :: parts)).length := by
  simp only [joined_cons_cons, List.length_append, List.length_cons, gap]
  omega

theorem joined_cons (depth : Nat) (part : List Char) (parts : List (List Char)) :
    ∃ more, joined depth (part :: parts) = part ++ more := by
  cases parts with
  | nil => exact ⟨[], by rw [joined_singleton, List.append_nil]⟩
  | cons next parts => exact ⟨_, joined_cons_cons depth part next parts⟩

theorem opens_joined {part : List Char} (opens : Opens part) (depth : Nat)
    (parts : List (List Char)) (rest : List Char) :
    Opens (joined depth (part :: parts) ++ rest) := by
  obtain ⟨more, front⟩ := joined_cons depth part parts
  rw [front, List.append_assoc]
  exact opens.append _

/-- Items are read one by one up to the closing bracket. -/
theorem readItems_joined {parts : List (List Char)} {items : List Datum}
    (all : List.Forall₂ (Spelled depth) parts items) (some : parts ≠ []) (outer : Nat)
    {fuel : Nat} (rest : List Char) (bound : 2 * (joined depth parts).length + 1 ≤ fuel) :
    readItems .file depth fuel (joined depth parts ++ (gap outer ++ ']' :: rest)) =
      .ok (items, rest) := by
  induction all generalizing fuel with
  | nil => exact absurd rfl some
  | @cons part item parts items first others ih =>
    obtain ⟨fuel, rfl⟩ : ∃ n, fuel = n + 1 := ⟨fuel - 1, by omega⟩
    cases others with
    | nil =>
      rw [joined_singleton] at bound ⊢
      rw [readItems, first.reads (by omega) (follows_gap outer _)]
      simp only [bind, Except.bind]
      rw [skipBlanks_gap, skipBlanks_cons (by decide)]
      rfl
    | @cons next item' parts items second others =>
      have longer := length_joined depth part next parts
      rw [joined_append, readItems, first.reads (by omega) (follows_comma _)]
      simp only [bind, Except.bind]
      rw [skipBlanks_cons (by decide)]
      simp only
      rw [skipBlanks_gap, (opens_joined second.opens _ _ _).skipBlanks,
        ih (List.cons_ne_nil _ _) (by omega)]
      rfl

/-- What stands between brackets on lines of its own. -/
def enclosed (depth : Nat) (left right : Char) (parts : List (List Char)) : List Char :=
  match parts with
  | [] => [left, right]
  | part :: parts =>
    left :: (gap (depth + 1) ++ (joined (depth + 1) (part :: parts) ++ (gap depth ++ [right])))

/-- The brackets of a list and its lines take more fuel than its items. -/
theorem length_enclosed (depth : Nat) (left right : Char) (part : List Char)
    (parts : List (List Char)) :
    (joined (depth + 1) (part :: parts)).length + 4 ≤
      (enclosed depth left right (part :: parts)).length := by
  simp only [enclosed, List.length_cons, List.length_append, gap]
  omega

theorem enclosed_opens (depth : Nat) {left : Char} (opens : opening left = true) (right : Char)
    (parts : List (List Char)) : Opens (enclosed depth left right parts) := by
  cases parts with
  | nil => exact ⟨left, _, rfl, opens⟩
  | cons part parts => exact ⟨left, _, rfl, opens⟩

theorem whole_gap (depth : Nat) : Whole (gap depth) := by
  refine whole_of_basic fun c member => ?_
  rcases List.mem_cons.mp member with rfl | space
  · decide
  · rw [List.eq_of_mem_replicate space]
    decide

theorem whole_joined (depth : Nat) {parts : List (List Char)} (all : ∀ part ∈ parts, Whole part) :
    Whole (joined depth parts) := by
  induction parts with
  | nil => exact .nil
  | cons part parts ih =>
    rw [List.forall_mem_cons] at all
    cases parts with
    | nil =>
      rw [joined_singleton]
      exact all.1
    | cons next parts =>
      rw [joined_cons_cons]
      exact all.1.append (.char (by decide) ((whole_gap depth).append (ih all.2)))

theorem whole_enclosed (depth : Nat) {left right : Char} (opening : left ≠ halfMark)
    (closing : right ≠ halfMark) {parts : List (List Char)} (all : ∀ part ∈ parts, Whole part) :
    Whole (enclosed depth left right parts) := by
  have close : Whole [right] := .char closing .nil
  cases parts with
  | nil => exact .char opening close
  | cons part parts =>
    exact .char opening ((whole_gap _).append ((whole_joined _ all).append
      ((whole_gap _).append close)))

theorem spelled_list {parts : List (List Char)} {items : List Datum} (shallow : depth < 1024)
    (all : List.Forall₂ (Spelled (depth + 1)) parts items) :
    Spelled depth (enclosed depth '[' ']' parts) (.list items) := by
  have wholes : ∀ part ∈ parts, Whole part :=
    ((List.forall₂_and_left _ _).mp (all.imp fun _ _ spelled => ⟨spelled.whole, spelled⟩)).1
  refine ⟨enclosed_opens depth (by decide) ']' parts,
    whole_enclosed depth (by decide) (by decide) wholes, ?_⟩
  intro fuel rest bound follows
  have notDeep : ¬ Dialect.file.depthLimit ≤ depth := by simpa [Dialect.file] using shallow
  cases all with
  | nil =>
    obtain ⟨fuel, rfl⟩ : ∃ n, fuel = n + 1 := ⟨fuel - 1, by simp [enclosed] at bound; omega⟩
    rw [enclosed, List.cons_append, readValue, if_neg notDeep, List.singleton_append,
      skipBlanks_cons (by decide)]
    rfl
  | @cons part item parts items first others =>
    have longer := length_enclosed depth '[' ']' part parts
    have opens := opens_joined first.opens (depth + 1) parts (gap depth ++ ']' :: rest)
    obtain ⟨fuel, rfl⟩ : ∃ n, fuel = n + 1 := ⟨fuel - 1, by omega⟩
    rw [enclosed, List.cons_append, List.append_assoc, List.append_assoc, List.append_assoc,
      List.singleton_append, readValue, if_neg notDeep, skipBlanks_gap, opens.skipBlanks]
    split
    · next same => exact absurd same (opens.ne_cons (by decide) _)
    · rw [readItems_joined (.cons first others) (List.cons_ne_nil _ _) depth rest (by omega)]
      rfl

end Lists

/-! ### Objects -/

section Objects

variable {depth : Nat}

/-- A name, a colon and the text of a value. -/
def SpelledField (depth : Nat) (part : List Char) (field : String × Datum) : Prop :=
  Whole field.1.toList ∧
    ∃ value, part = (encodeText field.1).toList ++ ':' :: ' ' :: value ∧ Spelled depth value field.2

theorem SpelledField.opens {part : List Char} {field : String × Datum}
    (spelled : SpelledField depth part field) : Opens part := by
  obtain ⟨_, value, rfl, _⟩ := spelled
  rw [encodeText_toList]
  exact ⟨_, _, rfl, by decide⟩

theorem SpelledField.whole {part : List Char} {field : String × Datum}
    (spelled : SpelledField depth part field) : Whole part := by
  obtain ⟨name, value, rfl, spelled⟩ := spelled
  exact (whole_encodeText name).append (.char (by decide) (.char (by decide) spelled.whole))

/-- Members with text keys. -/
def membersOf (fields : List (String × Datum)) : List (Datum × Datum) :=
  fields.map fun field => (.text field.1, field.2)

theorem membersOf_cons (field : String × Datum) (fields : List (String × Datum)) :
    membersOf (field :: fields) = (.text field.1, field.2) :: membersOf fields := rfl

section Field

variable {field : String × Datum} {value rest : List Char} {fuel : Nat}
  (spelled : Spelled depth value field.2) (bound : 2 * value.length ≤ fuel) (follows : Follows rest)
include spelled bound follows

/-- A name, a colon and a value are read; what follows decides whether there are more. -/
theorem readMembers_field :
    readMembers .file depth (fuel + 1)
      ((encodeText field.1).toList ++ ':' :: ' ' :: value ++ rest) =
        match skipBlanks rest with
        | '\x7d' :: after => .ok (membersOf [field], after)
        | ',' :: after => do
          let (members, after) ← readMembers .file depth fuel (skipBlanks after)
          return ((.text field.1, field.2) :: members, after)
        | after => refuse .expectingComma after := by
  have text : (encodeText field.1).toList ++ ':' :: ' ' :: value ++ rest =
      '"' :: (field.1.toList.flatMap escapedChar ++ '"' :: ':' :: ' ' :: (value ++ rest)) := by
    rw [encodeText_toList]
    simp
  have blank : skipBlanks (' ' :: (value ++ rest)) = value ++ rest :=
    (spelled.opens.append rest).skipBlanks
  rw [text, readMembers, readString_escaped]
  simp only [bind, Except.bind]
  rw [skipBlanks_cons (by decide)]
  simp only [blank, spelled.reads bound follows, List.reverse_nil, List.nil_append,
    String.ofList_toList]
  rfl

end Field

/-- Members are read one by one up to the closing brace. -/
theorem readMembers_joined {parts : List (List Char)} {fields : List (String × Datum)}
    (all : List.Forall₂ (SpelledField depth) parts fields) (some : parts ≠ []) (outer : Nat)
    {fuel : Nat} (rest : List Char) (bound : 2 * (joined depth parts).length + 1 ≤ fuel) :
    readMembers .file depth fuel (joined depth parts ++ (gap outer ++ '\x7d' :: rest)) =
      .ok (membersOf fields, rest) := by
  induction all generalizing fuel with
  | nil => exact absurd rfl some
  | @cons part field parts fields first others ih =>
    obtain ⟨fuel, rfl⟩ : ∃ n, fuel = n + 1 := ⟨fuel - 1, by omega⟩
    obtain ⟨_, value, rfl, spelled⟩ := first
    have shorter : value.length ≤ ((encodeText field.1).toList ++ ':' :: ' ' :: value).length := by
      rw [List.length_append, List.length_cons, List.length_cons]
      omega
    cases others with
    | nil =>
      rw [joined_singleton] at bound ⊢
      rw [readMembers_field spelled (by omega) (follows_gap outer _), skipBlanks_gap,
        skipBlanks_cons (by decide)]
      rfl
    | @cons next field' parts fields second others =>
      have longer :=
        length_joined depth ((encodeText field.1).toList ++ ':' :: ' ' :: value) next parts
      rw [joined_append, readMembers_field spelled (by omega) (follows_comma _),
        skipBlanks_cons (by decide)]
      simp only
      rw [skipBlanks_gap, (opens_joined second.opens _ _ _).skipBlanks,
        ih (List.cons_ne_nil _ _) (by omega)]
      rfl

/-! Names that differ stay apart, so reading builds the same object. -/

theorem insertEntry_of_new {key : String} {value : Datum} {fields : List (String × Datum)}
    (new : key ∉ fields.map Prod.fst) :
    Datum.insertEntry (.text key) value (membersOf fields) =
      membersOf (fields ++ [(key, value)]) := by
  induction fields with
  | nil => rfl
  | cons field fields ih =>
    rw [List.map_cons, List.mem_cons, not_or] at new
    have differs : Datum.same (.text field.1) (.text key) = false := by
      rw [Datum.same, beq_eq_false_iff_ne]
      exact Ne.symm new.1
    rw [membersOf_cons, Datum.insertEntry, differs, if_neg Bool.false_ne_true, ih new.2]
    rfl

theorem foldl_insertEntry {front fields : List (String × Datum)}
    (distinct : ((front ++ fields).map Prod.fst).Nodup) :
    (membersOf fields).foldl (fun acc entry => Datum.insertEntry entry.1 entry.2 acc)
      (membersOf front) = membersOf (front ++ fields) := by
  induction fields generalizing front with
  | nil => rw [List.append_nil]; rfl
  | cons field fields ih =>
    have new : field.1 ∉ front.map Prod.fst := by
      rw [List.map_append, List.map_cons, List.nodup_append] at distinct
      exact fun member => distinct.2.2 _ member _ List.mem_cons_self rfl
    have moved : front ++ field :: fields = front ++ [field] ++ fields := by
      rw [List.append_assoc, List.singleton_append]
    rw [moved] at distinct ⊢
    rw [membersOf_cons, List.foldl_cons, insertEntry_of_new new]
    exact ih distinct

theorem mapOf_membersOf {fields : List (String × Datum)} (distinct : (fields.map Prod.fst).Nodup) :
    Datum.mapOf (membersOf fields) = membersOf fields :=
  @foldl_insertEntry [] fields distinct

theorem spelled_fields {parts : List (List Char)} {fields : List (String × Datum)}
    (shallow : depth < 1024) (distinct : (fields.map Prod.fst).Nodup)
    (all : List.Forall₂ (SpelledField (depth + 1)) parts fields) :
    Spelled depth (enclosed depth '\x7b' '\x7d' parts) (.ofFields fields) := by
  have wholes : ∀ part ∈ parts, Whole part :=
    ((List.forall₂_and_left _ _).mp (all.imp fun _ _ spelled => ⟨spelled.whole, spelled⟩)).1
  refine ⟨enclosed_opens depth (by decide) '\x7d' parts,
    whole_enclosed depth (by decide) (by decide) wholes, ?_⟩
  intro fuel rest bound follows
  have notDeep : ¬ Dialect.file.depthLimit ≤ depth := by simpa [Dialect.file] using shallow
  cases all with
  | nil =>
    obtain ⟨fuel, rfl⟩ : ∃ n, fuel = n + 1 := ⟨fuel - 1, by simp [enclosed] at bound; omega⟩
    rw [enclosed, List.cons_append, readValue, if_neg notDeep, List.singleton_append,
      skipBlanks_cons (by decide)]
    rfl
  | @cons part field parts fields first others =>
    have longer := length_enclosed depth '\x7b' '\x7d' part parts
    have opens := opens_joined first.opens (depth + 1) parts (gap depth ++ '\x7d' :: rest)
    obtain ⟨fuel, rfl⟩ : ∃ n, fuel = n + 1 := ⟨fuel - 1, by omega⟩
    rw [enclosed, List.cons_append, List.append_assoc, List.append_assoc, List.append_assoc,
      List.singleton_append, readValue, if_neg notDeep, skipBlanks_gap, opens.skipBlanks]
    split
    · next same => exact absurd same (opens.ne_cons (by decide) _)
    · rw [readMembers_joined (.cons first others) (List.cons_ne_nil _ _) depth rest (by omega)]
      show Except.ok (Datum.map (Datum.mapOf (membersOf (field :: fields))), rest) = _
      rw [mapOf_membersOf distinct]
      rfl

end Objects

end DesignGauge.Json
