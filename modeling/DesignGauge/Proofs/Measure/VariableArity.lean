import DesignGauge.Proofs.Measure.Alike
import DesignGauge.Proofs.TypeName.Parameter

/-!
# Parameters of variable arity

A parameter `T... x` takes an array of `T`, as `T[] x` does. But a point can continue a dotted
name: where the type ends in a name, the three points become part of it, and the last segment of
what is found there is empty. This one name is lost. Where the type ends in arguments or brackets,
or a blank stands in front of the points, nothing is lost.

Results:
1. `Spelled.segmentsOf_points`: what a type with points behind it mentions.
2. `coupled_of_variableArity`: what this does to the coupled types of a class.
-/

namespace DesignGauge

namespace TypeName

open Text

/-! ## The end of a spelling -/

/-- A name may start behind the text. -/
def Broken (text : List Char) : Prop := ∀ c ∈ text.getLast?, continuesName c = false

theorem dottedNames_of_broken {front : List Char} (broken : Broken front) (back : List Char) :
    dottedNames (front ++ back) = dottedNames front ++ dottedNames back := by
  rcases List.eq_nil_or_concat front with rfl | ⟨before, c, rfl⟩
  · rw [dottedNames_nil]
    rfl
  · have breaks : continuesName c = false := broken c (by simp)
    rw [List.concat_eq_append, List.append_assoc, List.singleton_append,
      dottedNames_append_cons breaks, dottedNames_append_cons breaks, dottedNames_nil,
      List.append_nil]

/-- The name that a lexeme is. -/
def Lexeme.name? : Lexeme DottedName → Option DottedName
  | .name n => some n
  | .sign _ => none

namespace TypeExpr

/-- The name that an expression ends in, if neither arguments nor brackets stand behind it. -/
def endName? : TypeExpr → Option DottedName
  | .named name [] => some name
  | .named _ (_ :: _) => none
  | .wildcard => none
  | .extending bound => bound.endName?
  | .superOf bound => bound.endName?
  | .array _ => none

/-- The name that points behind the text of an expression become a part of. -/
def caught? (e : TypeExpr) (type : List Char) : Option DottedName :=
  if type.getLast?.any isBlank then none else e.endName?

theorem furtherLexemes_concat (arguments : List TypeExpr) :
    ∃ front, furtherLexemes arguments = front ++ [.sign .greater] := by
  induction arguments with
  | nil => exact ⟨[], rfl⟩
  | cons next others ih =>
    obtain ⟨front, split⟩ := ih
    exact ⟨.sign .comma :: (next.lexemes ++ front), by rw [furtherLexemes, split]; simp⟩

/-- The last lexeme of an expression is the name that it ends in, or a sign. -/
theorem lexemes_concat (e : TypeExpr) :
    ∃ front last, e.lexemes = front ++ [last] ∧ last.name? = e.endName? := by
  cases e with
  | named name arguments =>
    cases arguments with
    | nil => exact ⟨[], .name name, rfl, rfl⟩
    | cons first others =>
      obtain ⟨front, split⟩ := furtherLexemes_concat others
      refine ⟨.name name :: .sign .less :: (first.lexemes ++ front), .sign .greater, ?_, rfl⟩
      rw [lexemes, argumentLexemes, split]
      simp
  | wildcard => exact ⟨[], .sign .query, rfl, rfl⟩
  | extending bound =>
    obtain ⟨front, last, split, same⟩ := bound.lexemes_concat
    exact ⟨.sign .query :: .name extendsWord :: front, last, by rw [lexemes, split]; rfl, same⟩
  | superOf bound =>
    obtain ⟨front, last, split, same⟩ := bound.lexemes_concat
    exact ⟨.sign .query :: .name superWord :: front, last, by rw [lexemes, split]; rfl, same⟩
  | array element =>
    exact ⟨element.lexemes ++ [.sign .left], .sign .right, by rw [lexemes]; simp, rfl⟩

end TypeExpr

/-! ## Points behind a type -/

theorem any_getLast?_append {p : Char → Bool} {value : Bool} {back : List Char} (some : back ≠ [])
    (all : ∀ c ∈ back, p c = value) (front : List Char) :
    (front ++ back).getLast?.any p = value := by
  rcases List.eq_nil_or_concat back with rfl | ⟨init, last, rfl⟩
  · exact absurd rfl some
  · rw [List.concat_eq_append] at all
    rw [List.concat_eq_append, ← List.append_assoc, List.getLast?_concat]
    exact all last (List.mem_append_right _ List.mem_cons_self)

/-- What marks a parameter of variable arity. -/
def points : List Char := ['.', '.', '.']

/-- What marks an array. -/
def brackets : List Char := ['[', ']']

theorem Spelled.brackets {e : TypeExpr} {type : List Char} (spelled : Spelled e.lexemes type) :
    Spelled (TypeExpr.array e).lexemes (type ++ brackets) := by
  have closed := (spelled.concat_sign (s := .left) rfl).concat_sign (s := .right) rfl
  rwa [List.append_assoc, List.append_assoc] at closed

theorem dottedNames_points : dottedNames points = [] := by
  have noStart : ¬ startsName '.' = true := by decide
  rw [points, dottedNames_cons_of_not_starts noStart, dottedNames_cons_of_not_starts noStart,
    dottedNames_cons_of_not_starts noStart, dottedNames_nil]

/-- A name with points behind it is found as one name, and has no last segment. -/
theorem segmentsOf_caught (n : DottedName) : segmentsOf (dottedNames (n.chars ++ points)) = [] := by
  have one : dottedNames (n.chars ++ points) = [n.chars ++ points] := by
    obtain ⟨first, rest, split, starts⟩ := n.exists_chars
    rw [split, List.cons_append]
    refine dottedNames_of_name starts fun c member => ?_
    rcases List.mem_append.mp member with inName | point
    · exact n.continuesName_of_mem (split ▸ List.mem_cons_of_mem _ inName)
    · obtain rfl : c = '.' := by simpa [points] using point
      decide
  have none : afterLast '.' (n.chars ++ points) = [] := by
    have last : n.chars ++ points = (n.chars ++ ['.', '.']) ++ '.' :: [] := by
      rw [List.append_assoc]
      rfl
    rw [last]
    exact takeRightWhile_append_cons (by decide) (List.forall_mem_nil _)
  rw [one, segmentsOf, List.map_singleton, none]
  rfl

/-- A type mentions what it mentions with points behind it, and the name that the points become a
part of. -/
theorem Spelled.segmentsOf_points {e : TypeExpr} {type : List Char}
    (spelled : Spelled e.lexemes type) :
    e.mentions = TypeName.segmentsOf (TypeName.dottedNames (type ++ points)) ++
      simpleNames (e.caught? type).toList := by
  obtain ⟨front, last, row, ending⟩ := e.lexemes_concat
  have mentions : e.mentions = simpleNames (namesIn front) ++ simpleNames last.name?.toList := by
    rw [← simpleNames_lexemes, row, namesIn_append, simpleNames_append]
    cases last <;> rfl
  rw [row] at spelled
  obtain ⟨before, gap, rfl, blank, inFront, fits, apart⟩ := spelled.concat_inv
  have names : TypeName.segmentsOf (TypeName.dottedNames before) = simpleNames (namesIn front) := by
    rw [inFront.dottedNames, segmentsOf_chars]
  rw [mentions, TypeExpr.caught?, ← ending]
  cases last with
  | sign s =>
    have scan : TypeName.dottedNames (before ++ ([s.char] ++ gap) ++ points) =
        TypeName.dottedNames before := by
      rw [List.append_assoc, List.append_assoc, List.singleton_append,
        dottedNames_append_cons (Sign.breaks fits), dottedNames_gap blank, dottedNames_points,
        List.append_nil]
    rw [Lexeme.chars, scan, names, Lexeme.name?, ite_self]
  | name n =>
    have broken : Broken before := apart n rfl
    have chars : (Lexeme.name n).chars = n.chars := rfl
    cases gap with
    | nil =>
      have solid : (before ++ ((Lexeme.name n).chars ++ [])).getLast?.any isBlank = false := by
        rw [List.append_nil]
        exact any_getLast?_append (Lexeme.chars_ne_nil _)
          (fun c member => Lexeme.not_isBlank_of_mem member) before
      rw [solid, List.append_nil, List.append_assoc, chars, dottedNames_of_broken broken,
        segmentsOf_append, segmentsOf_caught, names, List.append_nil]
      rfl
    | cons b gap =>
      obtain ⟨first, others⟩ := List.forall_mem_cons.mp blank
      have blankEnd :
          (before ++ ((Lexeme.name n).chars ++ b :: gap)).getLast?.any isBlank = true := by
        rw [← List.append_assoc]
        exact any_getLast?_append (List.cons_ne_nil b gap) blank _
      have scan : TypeName.dottedNames (before ++ ((Lexeme.name n).chars ++ b :: gap) ++ points) =
          TypeName.dottedNames before ++ [n.chars] := by
        rw [List.append_assoc, dottedNames_of_broken broken, chars, List.append_assoc,
          List.cons_append, dottedNames_append_cons (continuesName_of_isBlank first),
          n.dottedNames_chars, dottedNames_gap others, dottedNames_points, List.append_nil]
      rw [blankEnd, scan, segmentsOf_append, names]
      have one := segmentsOf_chars [n]
      rw [List.map_singleton] at one
      rw [one]
      exact (List.append_nil _).symm

theorem mem_simpleNames_toList {caught : Option DottedName} {name : String} :
    name ∈ simpleNames caught.toList ↔
      ∃ n, caught = some n ∧ n.simple = name ∧ name ∉ ignoredWords := by
  rw [simpleNames, List.mem_filter, List.mem_map]
  constructor
  · rintro ⟨⟨n, member, rfl⟩, kept⟩
    exact ⟨n, Option.mem_toList.mp member, rfl, by simpa using kept⟩
  · rintro ⟨n, rfl, rfl, kept⟩
    exact ⟨⟨n, Option.mem_toList.mpr rfl, rfl⟩, by simpa using kept⟩

theorem simpleNames_toList_eq_nil_iff {caught : Option DottedName} :
    simpleNames caught.toList = [] ↔ ∀ n, caught = some n → n.simple ∈ ignoredWords := by
  rw [List.eq_nil_iff_forall_not_mem]
  constructor
  · intro none n isCaught
    by_contra kept
    exact none n.simple (mem_simpleNames_toList.mpr ⟨n, isCaught, rfl, kept⟩)
  · intro ignored name member
    obtain ⟨n, isCaught, rfl, kept⟩ := mem_simpleNames_toList.mp member
    exact kept (ignored n isCaught)

end TypeName

namespace Measure

open DesignGauge.TypeName

/-! ## Coupled types -/

/-- The class is coupled to a type of that name, if it mentions it. -/
def isCoupling (v : ClassView) (name : String) : Bool :=
  v.className? != some name && !isLibrary name

theorem isCoupling_cases (v : ClassView) (name : String) :
    isLibrary name = true ∨ v.className? = some name ∨ isCoupling v name = true := by
  by_cases library : isLibrary name = true
  · exact .inl library
  · by_cases own : v.className? = some name
    · exact .inr (.inl own)
    · exact .inr (.inr (by simp [isCoupling, library, own]))

theorem mem_coupled {v : ClassView} {name : String} :
    name ∈ coupled v ↔
      (∃ text ∈ typeTexts v, name ∈ mentioned text) ∧ isCoupling v name = true := by
  rw [coupled, List.mem_eraseDups, List.mem_filter, List.mem_flatMap]
  rfl

/-- A class with one parameter of one method left open. -/
structure ParameterPlace where
  classes : List ClassDecl := []
  fields : List FieldDecl := []
  before : List MethodDecl := []
  method : MethodDecl := {}
  after : List MethodDecl := []
  front : List String := []
  back : List String := []

/-- The class with some parameters in the place. -/
def ParameterPlace.fill (place : ParameterPlace) (parameters : List String) : ClassView :=
  { classes := place.classes
    methods := place.before ++
      { place.method with params := place.front ++ (parameters ++ place.back) } :: place.after
    fields := place.fields }

theorem mem_signatureTypes_fill {m : MethodDecl} {front back : List String}
    {parameter text : String} :
    text ∈ signatureTypes { m with params := front ++ ([parameter] ++ back) } ↔
      text = ofParameter parameter ∨
        text ∈ signatureTypes { m with params := front ++ ([] ++ back) } := by
  simp only [signatureTypes, List.map_append, List.map_cons, List.map_nil, List.mem_append,
    List.mem_singleton, List.not_mem_nil, false_or]
  grind

theorem mem_typeTexts_fill {place : ParameterPlace} {parameter text : String} :
    text ∈ typeTexts (place.fill [parameter]) ↔
      text = ofParameter parameter ∨ text ∈ typeTexts (place.fill []) := by
  simp only [typeTexts, ParameterPlace.fill, List.flatMap_append, List.flatMap_cons,
    List.mem_append, mem_signatureTypes_fill]
  grind

/-- What a parameter adds to the coupled types. -/
theorem mem_coupled_fill {place : ParameterPlace} {parameter name : String} :
    name ∈ coupled (place.fill [parameter]) ↔
      (name ∈ mentioned (ofParameter parameter) ∧ isCoupling (place.fill []) name = true) ∨
        name ∈ coupled (place.fill []) := by
  have same : isCoupling (place.fill [parameter]) name = isCoupling (place.fill []) name := rfl
  rw [mem_coupled, mem_coupled, same, ← or_and_right]
  simp only [mem_typeTexts_fill, or_and_right, exists_or, exists_eq_left]

theorem length_coupled_le {v v' : ClassView} (subset : ∀ name ∈ coupled v, name ∈ coupled v') :
    (coupled v).length ≤ (coupled v').length :=
  (List.subperm_of_subset (nodup_eraseDups _) subset).length_le

/-- A class is coupled to the same types with one parameter as with another that mentions some more
names, up to these names. -/
theorem mem_coupled_of_append {place : ParameterPlace} {some more : String} {lost : List String}
    (mentions : mentioned (ofParameter more) = mentioned (ofParameter some) ++ lost)
    {name : String} :
    name ∈ coupled (place.fill [more]) ↔ name ∈ coupled (place.fill [some]) ∨
      (name ∈ lost ∧ isCoupling (place.fill []) name = true) := by
  rw [mem_coupled_fill, mem_coupled_fill, mentions, List.mem_append, or_and_right, or_right_comm]

/-- So the numbers of coupled types are the same exactly if each of these names that counts is
found elsewhere. -/
theorem length_coupled_eq_iff {place : ParameterPlace} {some more : String} {lost : List String}
    (mentions : mentioned (ofParameter more) = mentioned (ofParameter some) ++ lost) :
    (coupled (place.fill [some])).length = (coupled (place.fill [more])).length ↔
      ∀ name ∈ lost, isCoupling (place.fill []) name = true →
        name ∈ coupled (place.fill [some]) := by
  constructor
  · intro equal name inLost counts
    by_contra missing
    -- a lost name that counts and is not found elsewhere makes the other list longer
    have distinct : (name :: coupled (place.fill [some])).Nodup :=
      List.nodup_cons.mpr ⟨missing, nodup_eraseDups _⟩
    have subset : name :: coupled (place.fill [some]) ⊆ coupled (place.fill [more]) := by
      refine List.cons_subset.mpr ⟨?_, fun other found => ?_⟩
      · exact (mem_coupled_of_append mentions).mpr (.inr ⟨inLost, counts⟩)
      · exact (mem_coupled_of_append mentions).mpr (.inl found)
    have longer := (List.subperm_of_subset distinct subset).length_le
    rw [List.length_cons] at longer
    omega
  · intro found
    refine Nat.le_antisymm (length_coupled_le fun name inSome => ?_)
      (length_coupled_le fun name inMore => ?_)
    · exact (mem_coupled_of_append mentions).mpr (.inl inSome)
    · rcases (mem_coupled_of_append mentions).mp inMore with inSome | ⟨inLost, counts⟩
      · exact inSome
      · exact found name inLost counts

/-- A parameter of variable arity mentions the names that the parameter with an array mentions, but
for the name that the points become a part of. They mention the same names exactly if there is no
such name, or it is an ignored word. The class has at most as many coupled types, and the same
number exactly if the name is not counted or is found elsewhere in the class. -/
theorem coupled_of_variableArity {e : TypeExpr} {type : List Char}
    (spelled : Spelled e.lexemes type) {name : ParameterName} {modifiers : List Modifier}
    {spread boxed : String}
    (declaresSpread : Declares (type ++ points) name modifiers spread.toList)
    (declaresBoxed : Declares (type ++ brackets) name modifiers boxed.toList) :
    mentioned (ofParameter boxed) =
      mentioned (ofParameter spread) ++ simpleNames (e.caught? type).toList ∧
    (mentioned (ofParameter spread) = mentioned (ofParameter boxed) ↔
      ∀ n, e.caught? type = some n → n.simple ∈ ignoredWords) ∧
    ∀ place : ParameterPlace,
      (coupled (place.fill [spread])).length ≤ (coupled (place.fill [boxed])).length ∧
      ((coupled (place.fill [spread])).length = (coupled (place.fill [boxed])).length ↔
        ∀ n, e.caught? type = some n →
          n.simple ∈ ignoredWords ∨ isLibrary n.simple = true ∨
          (place.fill [spread]).className? = some n.simple ∨
          n.simple ∈ coupled (place.fill [spread])) := by
  have asBoxed : mentioned (ofParameter boxed) = e.mentions := by
    have spelledBoxed := spelled.brackets
    rw [mentioned_ofParameter declaresBoxed spelledBoxed.unmarked spelledBoxed.written,
      spelledBoxed.segmentsOf]
    rfl
  have asSpread : mentioned (ofParameter spread) = segmentsOf (dottedNames (type ++ points)) := by
    obtain ⟨c, member, solid⟩ := spelled.written
    refine mentioned_ofParameter declaresSpread ?_ ⟨c, List.mem_append_left _ member, solid⟩
    rw [List.mem_append, not_or]
    exact ⟨spelled.unmarked, by decide⟩
  have mentions : mentioned (ofParameter boxed) =
      mentioned (ofParameter spread) ++ simpleNames (e.caught? type).toList := by
    rw [asBoxed, asSpread, spelled.segmentsOf_points]
  refine ⟨mentions, ?_, fun place => ⟨?_, ?_⟩⟩
  · rw [mentions, List.self_eq_append_right, simpleNames_toList_eq_nil_iff]
  · refine length_coupled_le fun name found => ?_
    exact (mem_coupled_of_append mentions).mpr (.inl found)
  · rw [length_coupled_eq_iff mentions]
    constructor
    · intro found n caught
      by_cases ignored : n.simple ∈ ignoredWords
      · exact .inl ignored
      · rcases isCoupling_cases (place.fill []) n.simple with library | own | counts
        · exact .inr (.inl library)
        · exact .inr (.inr (.inl own))
        · exact .inr (.inr (.inr (found _ (mem_simpleNames_toList.mpr ⟨n, caught, rfl, ignored⟩)
            counts)))
    · intro given name inLost counts
      obtain ⟨n, caught, rfl, noIgnored⟩ := mem_simpleNames_toList.mp inLost
      rcases given n caught with ignored | library | own | found
      · exact absurd ignored noIgnored
      · simp [isCoupling, library] at counts
      · have sameClass : (place.fill []).className? = some n.simple := own
        simp [isCoupling, sameClass] at counts
      · exact found

/-- A shelf with one method that has one parameter. -/
def shelf : ParameterPlace := { classes := [{ name := "Shelf" }] }

/-- Lists of books, as a type that ends in its arguments. -/
def bookList : TypeExpr :=
  .named ⟨[], { first := 'L', rest := ['i', 's', 't'] }⟩
    [.named ⟨[], { first := 'B', rest := ['o', 'o', 'k'] }⟩ []]

/-- Lists of books are not lost, in any number. -/
theorem bookLists_kept :
    mentioned (ofParameter "final List<Book>... rows") =
      mentioned (ofParameter "final List<Book>[] rows") ∧
    (coupled (shelf.fill ["final List<Book>... rows"])).length =
      (coupled (shelf.fill ["final List<Book>[] rows"])).length := by
  have none : Gap [] := gap_nil
  have one : Gap [' '] := List.forall_mem_singleton.mpr (by decide)
  have spelled : Spelled bookList.lexemes "List<Book>".toList :=
    .lexeme none rfl (.lexeme none rfl (.lexeme none rfl (.lexeme none rfl (.blank none))))
  have declaresSpread : Declares ("List<Book>".toList ++ points) { chars := "rows".toList }
      [.final] "final List<Book>... rows".toList :=
    .modified none one (by decide) (.plain one (by decide) none)
  have declaresBoxed : Declares ("List<Book>".toList ++ brackets) { chars := "rows".toList }
      [.final] "final List<Book>[] rows".toList :=
    .modified none one (by decide) (.plain one (by decide) none)
  obtain ⟨_, mentions, couples⟩ := coupled_of_variableArity spelled declaresSpread declaresBoxed
  have uncaught (n : DottedName) : bookList.caught? "List<Book>".toList ≠ some n :=
    (Option.some_ne_none n).symm
  exact ⟨mentions.mpr fun n caught => absurd caught (uncaught n),
    (couples shelf).2.mpr fun n caught => absurd caught (uncaught n)⟩

/-- A book is lost from the books. -/
theorem books_lost :
    mentioned (ofParameter "Book[] books") = ["Book"] ∧
    mentioned (ofParameter "Book... books") = [] ∧
    (coupled (shelf.fill ["Book[] books"])).length = 1 ∧
    (coupled (shelf.fill ["Book... books"])).length = 0 := by
  have boxed : mentioned (ofParameter "Book[] books") = ["Book"] := by decide +kernel
  have spread : mentioned (ofParameter "Book... books") = [] := by decide +kernel
  have result : mentioned "No_Type" = [] := by decide +kernel
  have coupledTo (parameter : String) : coupled (shelf.fill [parameter]) =
      ((mentioned (ofParameter parameter)).filter (isCoupling (shelf.fill []))).eraseDups := by
    show ((mentioned (ofParameter parameter) ++ (mentioned "No_Type" ++ [])).filter
      (isCoupling (shelf.fill []))).eraseDups = _
    rw [result, List.append_nil, List.append_nil]
  have counts : isCoupling (shelf.fill []) "Book" = true := by decide +kernel
  refine ⟨boxed, spread, ?_, ?_⟩
  · rw [coupledTo, boxed, List.filter_cons_of_pos counts]
    rfl
  · rw [coupledTo, spread]
    rfl

end Measure

end DesignGauge
