import DesignGauge.Proofs.TypeName.Lexeme
import DesignGauge.Proofs.TypeName.Scanning

/-!
# Type expressions and the names they mention

A type expression is a tree: a dotted name with type arguments, a wildcard, bounded or not, or an
array. It is written as a row of names and signs with any blanks between them. The scan for dotted
names knows neither brackets nor nesting, and still finds the names of the tree, in order.

Results:
1. `simpleNames_lexemes`: the names among the lexemes are those of the tree and ignored words.
2. `Spelled.dottedNames`: the scan gives the names among the lexemes, however they are spelled.
3. `segmentsOf_chars`: the last segments of the names that were found.
-/

namespace DesignGauge.TypeName

open Text

/-! ## Names -/

/-- A character of an identifier. -/
def isIdentifierChar (c : Char) : Bool :=
  isAsciiLetter c || isAsciiDigit c || c == '_' || c == '$'

/-- An identifier of the basic range. It does not start with a digit. -/
structure Identifier where
  first : Char
  rest : List Char
  opens : (isIdentifierChar first && !isAsciiDigit first) = true := by decide
  goesOn : rest.all isIdentifierChar = true := by decide

/-- The characters of an identifier. -/
def Identifier.chars (i : Identifier) : List Char := i.first :: i.rest

/-- Identifiers with points between them. -/
structure DottedName where
  qualifiers : List Identifier := []
  last : Identifier

namespace DottedName

/-- The characters of a dotted name. -/
def chars (n : DottedName) : List Char :=
  n.qualifiers.flatMap (fun q => q.chars ++ ['.']) ++ n.last.chars

/-- The last segment of a dotted name. -/
def simple (n : DottedName) : String := String.ofList n.last.chars

end DottedName

theorem continuesName_of_isIdentifierChar {c : Char} (identifier : isIdentifierChar c = true) :
    continuesName c = true := by
  by_cases digit : isAsciiDigit c = true
  · have basic : c.toNat < 0x80 := by
      have upTo : c.toNat ≤ '9'.toNat :=
        UInt32.le_iff_toNat_le.mp (of_decide_eq_true (Bool.and_eq_true_iff.mp digit).2)
      exact Nat.lt_of_le_of_lt upTo (by decide)
    simp [continuesName, Text.isWord, basic, digit]
  · refine continuesName_of_startsName ?_
    simpa [isIdentifierChar, startsName, digit, or_assoc] using identifier

theorem Identifier.mem_chars {i : Identifier} {c : Char} (member : c ∈ i.chars) :
    isIdentifierChar c = true := by
  rcases List.mem_cons.mp member with rfl | later
  · exact (Bool.and_eq_true_iff.mp i.opens).1
  · exact List.all_eq_true.mp i.goesOn c later

theorem Identifier.startsName_first (i : Identifier) : startsName i.first = true := by
  have opens := i.opens
  simp only [isIdentifierChar, Bool.and_eq_true, Bool.not_eq_true'] at opens
  obtain ⟨one, noDigit⟩ := opens
  simpa [startsName, noDigit, or_assoc] using one

namespace DottedName

theorem continuesName_of_mem {n : DottedName} {c : Char} (member : c ∈ n.chars) :
    continuesName c = true := by
  have ofSegment {i : Identifier} (inside : c ∈ i.chars) : continuesName c = true :=
    continuesName_of_isIdentifierChar (Identifier.mem_chars inside)
  rcases List.mem_append.mp member with front | back
  · obtain ⟨q, _, inside⟩ := List.mem_flatMap.mp front
    rcases List.mem_append.mp inside with segment | point
    · exact ofSegment segment
    · rw [List.mem_singleton.mp point]
      decide
  · exact ofSegment back

theorem exists_chars (n : DottedName) :
    ∃ first rest, n.chars = first :: rest ∧ startsName first = true := by
  unfold chars
  cases n.qualifiers with
  | nil => exact ⟨n.last.first, n.last.rest, rfl, n.last.startsName_first⟩
  | cons q others => exact ⟨q.first, _, rfl, q.startsName_first⟩

theorem chars_ne_nil (n : DottedName) : n.chars ≠ [] := by
  obtain ⟨first, rest, split, _⟩ := n.exists_chars
  rw [split]
  exact List.cons_ne_nil first rest

/-- A point can be part of a dotted name, so that it is no sign between such names. -/
instance : NameKind DottedName where
  chars := DottedName.chars
  isPart := continuesName
  chars_ne_nil := chars_ne_nil
  isPart_of_mem := continuesName_of_mem
  solid := isBlank_of_continuesName

/-- A dotted name is scanned as one name. -/
theorem dottedNames_chars (n : DottedName) : dottedNames n.chars = [n.chars] := by
  obtain ⟨first, rest, split, starts⟩ := n.exists_chars
  rw [split]
  refine dottedNames_of_name starts fun c member => n.continuesName_of_mem ?_
  rw [split]
  exact List.mem_cons_of_mem _ member

theorem afterLast_chars (n : DottedName) : afterLast '.' n.chars = n.last.chars := by
  have pointless : ∀ c ∈ n.last.chars, (c != '.') = true := by
    intro c member
    rw [bne_iff_ne]
    rintro rfl
    exact absurd (Identifier.mem_chars member) (by decide)
  -- the last segment is the whole name, or stands behind the point of the last qualifier
  unfold chars afterLast
  rcases List.eq_nil_or_concat n.qualifiers with none | ⟨front, q, split⟩
  · rw [none]
    exact takeRightWhile_of_all pointless
  · rw [split, List.concat_eq_append, List.flatMap_append, List.flatMap_singleton,
      List.append_assoc, List.append_assoc, ← List.append_assoc, List.singleton_append]
    exact takeRightWhile_append_cons (by decide) pointless

end DottedName

/-! ## Expressions and their lexemes -/

/-- A type expression. -/
inductive TypeExpr where
  /-- A named type with its arguments, if any. -/
  | named (name : DottedName) (arguments : List TypeExpr)
  | wildcard
  | extending (bound : TypeExpr)
  | superOf (bound : TypeExpr)
  | array (element : TypeExpr)

/-- The names among some lexemes. -/
def namesIn : List (Lexeme DottedName) → List DottedName
  | [] => []
  | .name name :: rest => name :: namesIn rest
  | .sign _ :: rest => namesIn rest

/-- The word in front of an upper bound. -/
def extendsWord : DottedName := ⟨[], { first := 'e', rest := ['x', 't', 'e', 'n', 'd', 's'] }⟩

/-- The word in front of a lower bound. -/
def superWord : DottedName := ⟨[], { first := 's', rest := ['u', 'p', 'e', 'r'] }⟩

namespace TypeExpr

mutual

/-- The lexemes of an expression. -/
def lexemes : TypeExpr → List (Lexeme DottedName)
  | .named name arguments => .name name :: argumentLexemes arguments
  | .wildcard => [.sign .query]
  | .extending bound => .sign .query :: .name extendsWord :: bound.lexemes
  | .superOf bound => .sign .query :: .name superWord :: bound.lexemes
  | .array element => element.lexemes ++ [.sign .left, .sign .right]

/-- The lexemes of an argument list; none if there are no arguments. -/
def argumentLexemes : List TypeExpr → List (Lexeme DottedName)
  | [] => []
  | first :: others => .sign .less :: (first.lexemes ++ furtherLexemes others)

/-- The lexemes of an argument list behind its first argument. -/
def furtherLexemes : List TypeExpr → List (Lexeme DottedName)
  | [] => [.sign .greater]
  | next :: others => .sign .comma :: (next.lexemes ++ furtherLexemes others)

end

mutual

/-- The named types of an expression, from left to right. -/
def names : TypeExpr → List DottedName
  | .named name arguments => name :: namesOf arguments
  | .wildcard => []
  | .extending bound => bound.names
  | .superOf bound => bound.names
  | .array element => element.names

/-- The named types of some arguments. -/
def namesOf : List TypeExpr → List DottedName
  | [] => []
  | first :: others => first.names ++ namesOf others

end

end TypeExpr

/-- The last segments of some names, but for the ignored words. -/
def simpleNames (names : List DottedName) : List String :=
  (names.map DottedName.simple).filter fun name => !ignoredWords.contains name

/-- The types that an expression should mention. -/
def TypeExpr.mentions (e : TypeExpr) : List String := simpleNames e.names

theorem simpleNames_append (front back : List DottedName) :
    simpleNames (front ++ back) = simpleNames front ++ simpleNames back := by
  rw [simpleNames, List.map_append, List.filter_append]
  rfl

theorem simpleNames_cons (name : DottedName) (names : List DottedName) :
    simpleNames (name :: names) = simpleNames [name] ++ simpleNames names :=
  simpleNames_append [name] names

theorem namesIn_append (front back : List (Lexeme DottedName)) :
    namesIn (front ++ back) = namesIn front ++ namesIn back := by
  induction front with
  | nil => rfl
  | cons first front ih =>
    cases first with
    | name name => exact congrArg (name :: ·) ih
    | sign _ => exact ih

mutual

/-- The words in front of bounds aside, the names among the lexemes are the named types. -/
theorem simpleNames_lexemes (e : TypeExpr) : simpleNames (namesIn e.lexemes) = e.mentions := by
  cases e with
  | named name arguments =>
    rw [TypeExpr.lexemes, namesIn, TypeExpr.mentions, TypeExpr.names, simpleNames_cons,
      simpleNames_argumentLexemes arguments, ← simpleNames_cons]
  | wildcard => rfl
  | extending bound =>
    -- the word in front of a bound is among the names, and is ignored
    have ignored : simpleNames [extendsWord] = [] := by decide
    rw [TypeExpr.lexemes, namesIn, namesIn, simpleNames_cons, ignored, List.nil_append]
    exact simpleNames_lexemes bound
  | superOf bound =>
    have ignored : simpleNames [superWord] = [] := by decide
    rw [TypeExpr.lexemes, namesIn, namesIn, simpleNames_cons, ignored, List.nil_append]
    exact simpleNames_lexemes bound
  | array element =>
    rw [TypeExpr.lexemes, namesIn_append]
    exact (congrArg simpleNames (List.append_nil _)).trans (simpleNames_lexemes element)

theorem simpleNames_argumentLexemes (arguments : List TypeExpr) :
    simpleNames (namesIn (TypeExpr.argumentLexemes arguments)) =
      simpleNames (TypeExpr.namesOf arguments) := by
  cases arguments with
  | nil => rfl
  | cons first others =>
    rw [TypeExpr.argumentLexemes, namesIn, namesIn_append, simpleNames_append,
      simpleNames_lexemes first, simpleNames_furtherLexemes others, TypeExpr.namesOf,
      simpleNames_append]
    rfl

theorem simpleNames_furtherLexemes (arguments : List TypeExpr) :
    simpleNames (namesIn (TypeExpr.furtherLexemes arguments)) =
      simpleNames (TypeExpr.namesOf arguments) := by
  cases arguments with
  | nil => rfl
  | cons next others =>
    rw [TypeExpr.furtherLexemes, namesIn, namesIn_append, simpleNames_append,
      simpleNames_lexemes next, simpleNames_furtherLexemes others, TypeExpr.namesOf,
      simpleNames_append]
    rfl

end

/-! ## Spellings -/

theorem dottedNames_gap {gap : List Char} (blank : Gap gap) (text : List Char) :
    dottedNames (gap ++ text) = dottedNames text := by
  induction gap with
  | nil => rfl
  | cons b gap ih =>
    obtain ⟨first, others⟩ := List.forall_mem_cons.mp blank
    exact (dottedNames_cons_of_breaks (continuesName_of_isBlank first) _).trans (ih others)

theorem Sign.breaks {s : Sign} {text : List Char}
    (fits : (Lexeme.sign s : Lexeme DottedName).fitsBefore text = true) :
    continuesName s.char = false :=
  (Bool.not_eq_true' _).mp fits

/-- The scan finds the names among the lexemes. -/
theorem Spelled.dottedNames {lexemes : List (Lexeme DottedName)} {text : List Char}
    (spelled : Spelled lexemes text) :
    dottedNames text = (namesIn lexemes).map DottedName.chars := by
  induction spelled with
  | @blank gap blank =>
    have scan := dottedNames_gap blank []
    rwa [List.append_nil, dottedNames_nil] at scan
  | @lexeme gap text first rest blank fits spelled ih =>
    rw [dottedNames_gap blank]
    cases first with
    | sign s => exact (dottedNames_cons_of_breaks (Sign.breaks fits) text).trans ih
    | name n =>
      rw [namesIn, List.map_cons, ← ih]
      show TypeName.dottedNames (n.chars ++ text) = _
      cases text with
      | nil => rw [List.append_nil, n.dottedNames_chars, dottedNames_nil]
      | cons c text =>
        have breaks : continuesName c = false := (Bool.not_eq_true' _).mp fits
        rw [dottedNames_append_cons breaks, n.dottedNames_chars, dottedNames_cons_of_breaks breaks]
        rfl

/-! ## Last segments -/

/-- The last segments of names that were found, but for empty ones and the ignored words. -/
def segmentsOf (found : List (List Char)) : List String :=
  (found.map fun name => String.ofList (afterLast '.' name)).filter
    fun name => !name.isEmpty && !ignoredWords.contains name

theorem mentioned_eq (text : String) : mentioned text = segmentsOf (dottedNames text.toList) := rfl

theorem segmentsOf_append (front back : List (List Char)) :
    segmentsOf (front ++ back) = segmentsOf front ++ segmentsOf back := by
  rw [segmentsOf, List.map_append, List.filter_append]
  rfl

theorem segmentsOf_chars (names : List DottedName) :
    segmentsOf (names.map DottedName.chars) = simpleNames names := by
  have segments : (names.map DottedName.chars).map
      (fun name => String.ofList (afterLast '.' name)) = names.map DottedName.simple := by
    rw [List.map_map]
    refine List.map_congr_left fun n _ => ?_
    exact congrArg String.ofList n.afterLast_chars
  rw [segmentsOf, segments, simpleNames]
  refine List.filter_congr fun name member => ?_
  obtain ⟨n, _, rfl⟩ := List.mem_map.mp member
  have nonempty : n.simple.isEmpty = false := by
    rw [← Bool.not_eq_true, String.isEmpty_iff]
    intro empty
    exact absurd (congrArg String.toList empty) (by simp [DottedName.simple, Identifier.chars])
  rw [nonempty, Bool.not_false, Bool.true_and]

end DesignGauge.TypeName
