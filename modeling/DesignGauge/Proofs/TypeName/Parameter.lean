import DesignGauge.Proofs.TypeName.Grammar

/-!
# Declared parameters

A parameter is declared by words: annotations and `final` in any number and order, a type, whose
own spelling may have blanks in it, and a name. What is left without annotations, single commas and
the name is no spelling of the type any more, but the scan finds the same names in it.

Results:
1. `Declares.words`: the words of a parameter.
2. `mentioned_ofParameter`: a parameter mentions what the text of its type does.
3. `mentioned_of_spelled`: types and parameters mention the last segments of the named types.
-/

namespace DesignGauge

namespace TypeName

open Text

/-- The word in front of the type of a parameter that is not assigned to. -/
def finalWord : DottedName := ⟨[], { first := 'f', rest := ['i', 'n', 'a', 'l'] }⟩

/-- What may stand in front of the type of a parameter: `final`, and annotations, which are marked
by their first character. -/
inductive Modifier where
  | final
  | marked (text : List Char) (solid : text.all (!isBlank ·) = true)

namespace Modifier

/-- The characters of a modifier. -/
def chars : Modifier → List Char
  | .final => finalWord.chars
  | .marked text _ => '@' :: text

/-- The names that are found in a modifier, if it is not left out. -/
def names : Modifier → List DottedName
  | .final => [finalWord]
  | .marked _ _ => []

end Modifier

/-- A word that is left of a parameter: neither an annotation nor a comma. -/
def isTypeWord (word : List Char) : Bool := word.head? != some '@' && word != [',']

/-- The name of a parameter is such a word. -/
structure ParameterName where
  chars : List Char
  nonempty : chars ≠ [] := by decide
  solid : chars.all (!isBlank ·) = true := by decide
  isLeft : isTypeWord chars = true := by decide

/-- A text declares a parameter: modifiers, the text of a type and a name, with blanks between
them. -/
inductive Declares (type : List Char) (name : ParameterName) : List Modifier → List Char → Prop
  | plain {gap after : List Char} : Gap gap → gap ≠ [] → Gap after →
      Declares type name [] (type ++ (gap ++ (name.chars ++ after)))
  | modified {before gap text : List Char} {m : Modifier} {modifiers : List Modifier} :
      Gap before → Gap gap → gap ≠ [] → Declares type name modifiers text →
      Declares type name (m :: modifiers) (before ++ (m.chars ++ (gap ++ text)))

/-! ## Words -/

theorem words_gap {gap : List Char} (blank : Gap gap) (text : List Char) :
    words (gap ++ text) = words text := by
  induction gap with
  | nil => rfl
  | cons b gap ih =>
    obtain ⟨first, others⟩ := List.forall_mem_cons.mp blank
    exact (words_append_cons first [] _).trans (ih others)

theorem words_apart {gap : List Char} (blank : Gap gap) (some : gap ≠ []) (front back : List Char) :
    words (front ++ (gap ++ back)) = words front ++ words back := by
  obtain ⟨b, gap, rfl⟩ := List.exists_cons_of_ne_nil some
  obtain ⟨first, others⟩ := List.forall_mem_cons.mp blank
  rw [List.cons_append, words_append_cons first, words_gap others]

theorem words_trailing {gap : List Char} (blank : Gap gap) (text : List Char) :
    words (text ++ gap) = words text := by
  cases gap with
  | nil => rw [List.append_nil]
  | cons b gap =>
    obtain ⟨first, others⟩ := List.forall_mem_cons.mp blank
    have rest := words_gap others []
    rw [List.append_nil] at rest
    rw [words_append_cons first, rest]
    exact List.append_nil _

theorem words_of_all {word : List Char} (nonempty : word ≠ [])
    (solid : word.all (!isBlank ·) = true) : words word = [word] := by
  rw [List.all_eq_true] at solid
  have noBlank : ∀ c ∈ word, isBlank c = false := fun c member => by simpa using solid c member
  rw [words_of_solid noBlank, if_neg (by simpa using nonempty)]

theorem ParameterName.words_chars (name : ParameterName) : words name.chars = [name.chars] :=
  words_of_all name.nonempty name.solid

theorem Modifier.words_chars (m : Modifier) : words m.chars = [m.chars] := by
  cases m with
  | final => exact words_of_all (by decide) (by decide)
  | marked text solid =>
    refine words_of_all (List.cons_ne_nil _ _) ?_
    rw [chars, List.all_cons, solid]
    decide

/-- The words of a parameter are its modifiers, the words of its type, and its name. -/
theorem Declares.words {type text : List Char} {name : ParameterName} {modifiers : List Modifier}
    (declares : Declares type name modifiers text) :
    words text = modifiers.map Modifier.chars ++ (words type ++ [name.chars]) := by
  induction declares with
  | @plain gap after blank some trailing =>
    rw [words_apart blank some, words_trailing trailing, name.words_chars]
    rfl
  | @modified before gap text m modifiers leading blank some _ ih =>
    rw [words_gap leading, words_apart blank some, m.words_chars, ih]
    rfl

/-! ## Names -/

/-- The modifiers that are left have their names in them. -/
theorem dottedNames_modifiers (modifiers : List Modifier) :
    ((modifiers.map Modifier.chars).filter isTypeWord).flatMap dottedNames =
      (modifiers.flatMap Modifier.names).map DottedName.chars := by
  induction modifiers with
  | nil => rfl
  | cons m modifiers ih =>
    rw [List.map_cons, List.flatMap_cons, List.map_append, ← ih]
    cases m with
    | final =>
      have isLeft : isTypeWord (Modifier.chars .final) = true := by decide
      rw [List.filter_cons_of_pos isLeft, List.flatMap_cons]
      exact congrArg (· ++ _) finalWord.dottedNames_chars
    | marked text solid =>
      have dropped : ¬ isTypeWord (Modifier.chars (.marked text solid)) = true := by
        simp [isTypeWord, Modifier.chars]
      rw [List.filter_cons_of_neg dropped]
      rfl

/-- The words of a type that are left out have no names in them. -/
theorem dottedNames_typeWords {type : List Char} (unmarked : '@' ∉ type) :
    ((words type).filter isTypeWord).flatMap dottedNames = dottedNames type := by
  have nameless : ∀ word ∈ words type, isTypeWord word = false → dottedNames word = [] := by
    intro word isWord dropped
    rw [isTypeWord, Bool.and_eq_false_iff, bne_eq_false_iff_eq, bne_eq_false_iff_eq] at dropped
    rcases dropped with mark | comma
    · exact absurd (mem_of_mem_words isWord (List.mem_of_mem_head? mark)) unmarked
    · rw [comma, dottedNames_cons_of_breaks (by decide), dottedNames_nil]
  rw [← dottedNames_words type]
  generalize words type = typeWords at nameless ⊢
  induction typeWords with
  | nil => rfl
  | cons word others ih =>
    obtain ⟨first, later⟩ := List.forall_mem_cons.mp nameless
    cases isLeft : isTypeWord word with
    | true => rw [List.filter_cons_of_pos isLeft, List.flatMap_cons, List.flatMap_cons, ih later]
    | false =>
      rw [List.filter_cons_of_neg (by simp [isLeft]), List.flatMap_cons, first isLeft, ih later,
        List.nil_append]

/-- A type with some other character than blanks and commas in it has a word that is left. -/
theorem typeWords_ne_nil {type : List Char} (unmarked : '@' ∉ type)
    (written : ∃ c ∈ type, isBlank c = false ∧ c ≠ ',') : (words type).filter isTypeWord ≠ [] := by
  obtain ⟨c, member, solid, noComma⟩ := written
  obtain ⟨word, isWord, inside⟩ := exists_word_of_mem member solid
  refine List.ne_nil_of_mem (List.mem_filter.mpr ⟨isWord, ?_⟩)
  rw [isTypeWord, Bool.and_eq_true, bne_iff_ne, bne_iff_ne]
  constructor
  · intro mark
    exact unmarked (mem_of_mem_words isWord (List.mem_of_mem_head? mark))
  · rintro rfl
    exact noComma (List.mem_singleton.mp inside)

/-- The names in what is left of a parameter are those of its modifiers and those of its type. -/
theorem dottedNames_ofParameter {type : List Char} {name : ParameterName}
    {modifiers : List Modifier} {parameter : String}
    (declares : Declares type name modifiers parameter.toList) (unmarked : '@' ∉ type)
    (written : ∃ c ∈ type, isBlank c = false ∧ c ≠ ',') :
    dottedNames (ofParameter parameter).toList =
      (modifiers.flatMap Modifier.names).map DottedName.chars ++ dottedNames type := by
  have parts : (words parameter.toList).filter isTypeWord =
      ((modifiers.map Modifier.chars).filter isTypeWord ++ (words type).filter isTypeWord) ++
        [name.chars] := by
    rw [declares.words, List.filter_append, List.filter_append,
      List.filter_cons_of_pos name.isLeft, List.filter_nil, List.append_assoc]
  -- a single word would be taken for the type, and not be dropped as the name
  have several : ((words parameter.toList).filter isTypeWord).length ≥ 2 := by
    have some := List.length_pos_of_ne_nil (typeWords_ne_nil unmarked written)
    rw [parts, List.length_append, List.length_append, List.length_singleton]
    omega
  have left : ofParameter parameter = String.intercalate " "
      (((words parameter.toList).filter isTypeWord).dropLast.map String.ofList) :=
    congrArg (fun parts : List (List Char) => String.intercalate " " (parts.map String.ofList))
      (if_pos several)
  have chars (pieces : List (List Char)) :
      (String.intercalate " " (pieces.map String.ofList)).toList = [' '].intercalate pieces := by
    have same : String.toList ∘ String.ofList = id := funext fun _ => String.toList_ofList
    rw [String.toList_intercalate, List.map_map, same, List.map_id]
    rfl
  rw [left, parts, List.dropLast_concat, chars, dottedNames_intercalate (by decide),
    List.flatMap_append, dottedNames_modifiers, dottedNames_typeWords unmarked]

theorem simpleNames_modifiers (modifiers : List Modifier) :
    simpleNames (modifiers.flatMap Modifier.names) = [] := by
  induction modifiers with
  | nil => rfl
  | cons m modifiers ih =>
    rw [List.flatMap_cons, simpleNames_append, ih, List.append_nil]
    cases m with
    | final => decide
    | marked _ _ => rfl

/-- A parameter mentions what the text of its type does. -/
theorem mentioned_ofParameter {type : List Char} {name : ParameterName}
    {modifiers : List Modifier} {parameter : String}
    (declares : Declares type name modifiers parameter.toList) (unmarked : '@' ∉ type)
    (written : ∃ c ∈ type, isBlank c = false ∧ c ≠ ',') :
    mentioned (ofParameter parameter) = segmentsOf (dottedNames type) := by
  rw [mentioned_eq, dottedNames_ofParameter declares unmarked written, segmentsOf_append,
    segmentsOf_chars, simpleNames_modifiers, List.nil_append]

/-! ## Spelled types -/

/-- No annotation is spelled by the lexemes of a type. -/
theorem Spelled.unmarked {lexemes : List (Lexeme DottedName)} {text : List Char}
    (spelled : Spelled lexemes text) : '@' ∉ text := by
  rw [spelled.mem_iff (by decide)]
  rintro ⟨l, _, member⟩
  cases l with
  | name n => exact absurd (n.continuesName_of_mem member) (by decide)
  | sign s =>
    rw [Lexeme.chars, List.mem_singleton] at member
    cases s <;> exact absurd member (by decide)

/-- An expression does not start with a comma. -/
theorem TypeExpr.lexemes_opens (e : TypeExpr) :
    ∃ first rest, e.lexemes = first :: rest ∧ first ≠ .sign .comma := by
  cases e with
  | named name arguments => exact ⟨_, _, rfl, by simp⟩
  | wildcard => exact ⟨_, _, rfl, by simp⟩
  | extending bound => exact ⟨_, _, rfl, by simp⟩
  | superOf bound => exact ⟨_, _, rfl, by simp⟩
  | array element =>
    obtain ⟨first, rest, split, other⟩ := element.lexemes_opens
    exact ⟨first, rest ++ [.sign .left, .sign .right], by rw [lexemes, split]; rfl, other⟩

theorem Spelled.written {e : TypeExpr} {text : List Char} (spelled : Spelled e.lexemes text) :
    ∃ c ∈ text, isBlank c = false ∧ c ≠ ',' := by
  obtain ⟨first, rest, split, other⟩ := e.lexemes_opens
  obtain ⟨c, chars, nonempty⟩ := List.exists_cons_of_ne_nil first.chars_ne_nil
  have member : c ∈ first.chars := by
    rw [nonempty]
    exact List.mem_cons_self
  have solid := Lexeme.not_isBlank_of_mem member
  refine ⟨c, (spelled.mem_iff solid).mpr ⟨first, ?_, member⟩, solid, ?_⟩
  · rw [split]
    exact List.mem_cons_self
  · rintro rfl
    exact other (Lexeme.eq_sign_of_mem (s := .comma) rfl member)

theorem Spelled.segmentsOf {e : TypeExpr} {text : List Char} (spelled : Spelled e.lexemes text) :
    segmentsOf (TypeName.dottedNames text) = e.mentions := by
  rw [spelled.dottedNames, segmentsOf_chars, simpleNames_lexemes]

/-- However a type expression is spelled, its text mentions the last segments of its named types,
from left to right and as often as they occur, but for the ignored words. So does the text that is
left of any parameter that is declared with that type. -/
theorem mentioned_of_spelled (e : TypeExpr) :
    (∀ text : String, Spelled e.lexemes text.toList → mentioned text = e.mentions) ∧
    (∀ (type : List Char) (modifiers : List Modifier) (name : ParameterName) (parameter : String),
      Spelled e.lexemes type → Declares type name modifiers parameter.toList →
        mentioned (ofParameter parameter) = e.mentions) := by
  constructor
  · intro text spelled
    rw [mentioned_eq, spelled.segmentsOf]
  · intro type modifiers name parameter spelled declares
    rw [mentioned_ofParameter declares spelled.unmarked spelled.written, spelled.segmentsOf]

/-- An array of maps with an ignored word and a bound among the arguments. -/
def shapeMaps : TypeExpr :=
  .array (.named ⟨[{ first := 'a', rest := [] }], { first := 'M', rest := ['a', 'p'] }⟩
    [.named ⟨[], { first := 'v', rest := ['a', 'r'] }⟩ [],
      .extending (.named ⟨[{ first := 'g', rest := [] }],
        { first := 'S', rest := ['h', 'a', 'p', 'e'] }⟩ [])])

/-- The maps are mentioned with blanks between the lexemes, and as the type of a parameter. -/
theorem shapeMaps_mentioned :
    Spelled shapeMaps.lexemes "a.Map< var,? extends  g.Shape >[ ]".toList ∧
    mentioned "a.Map< var,? extends  g.Shape >[ ]" = ["Map", "Shape"] ∧
    mentioned (ofParameter "@Size(max=3) final a.Map< var,? extends  g.Shape >[ ] shapes") =
      ["Map", "Shape"] := by
  have none : Gap [] := gap_nil
  have one : Gap [' '] := List.forall_mem_singleton.mpr (by decide)
  have two : Gap [' ', ' '] := List.forall_mem_cons.mpr ⟨by decide, one⟩
  have spelled : Spelled shapeMaps.lexemes "a.Map< var,? extends  g.Shape >[ ]".toList :=
    .lexeme none rfl (.lexeme none rfl (.lexeme one rfl (.lexeme none rfl (.lexeme none rfl
      (.lexeme one rfl (.lexeme two rfl (.lexeme one rfl (.lexeme none rfl (.lexeme one rfl
        (.blank none))))))))))
  have declares : Declares "a.Map< var,? extends  g.Shape >[ ]".toList
      { chars := "shapes".toList } [.marked "Size(max=3)".toList (by decide), .final]
      "@Size(max=3) final a.Map< var,? extends  g.Shape >[ ] shapes".toList :=
    .modified none one (by decide) (.modified none one (by decide) (.plain one (by decide) none))
  have mentions : shapeMaps.mentions = ["Map", "Shape"] := by decide
  obtain ⟨asType, asParameter⟩ := mentioned_of_spelled shapeMaps
  rw [mentions] at asType asParameter
  exact ⟨spelled, asType _ spelled, asParameter _ _ _ _ spelled declares⟩

end TypeName

end DesignGauge
