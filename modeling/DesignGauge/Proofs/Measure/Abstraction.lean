import DesignGauge.Proofs.Measure.Reach
import DesignGauge.Proofs.TypeName.Arguments

/-!
# Counting abstractions

Abstractions are the distinct types of fields, in front of the first field without a type, that are
neither of the library nor generic. The count goes by the shape of the text. It is too high by the
generic types that do not have the shape, and too low by texts that have the shape and are no types.

Results:
1. `mem_scannedTypes_iff`: the types that are looked at.
2. `encard_countedTypes`: the count by the shape.
3. `countedTypes_union_misreadTypes`: what is counted against what should be.
4. `abstractions_counted`: the count for every class, and when it is right.
-/

namespace DesignGauge.Measure

open DesignGauge.TypeName

variable {v : ClassView} {type : String}

/-- The types of the fields in front of the first one without a type. -/
def scannedTypes (v : ClassView) : Set String :=
  {type | ∃ before f after, v.fields = before ++ f :: after ∧ f.type = type ∧
    ∀ g ∈ before ++ [f], g.type ≠ ""}

/-- The types that should count: neither of the library nor generic. -/
def dataAbstractions (v : ClassView) : Set String :=
  {type ∈ scannedTypes v | isLibrary type = false ∧ ¬ IsGeneric type}

/-- The generic types whose text does not have the shape of one. -/
def overlookedTypes (v : ClassView) : Set String :=
  {type ∈ scannedTypes v | IsGeneric type ∧ ¬ Bracketed type.toList}

/-- The texts that have the shape of a generic type and are none. -/
def misreadTypes (v : ClassView) : Set String :=
  {type ∈ scannedTypes v | ¬ IsType type ∧ Bracketed type.toList}

/-- The types that count. -/
def countedTypes (v : ClassView) : Set String :=
  {type ∈ scannedTypes v | isLibrary type = false ∧ ¬ Bracketed type.toList}

theorem mem_scannedTypes_iff :
    type ∈ scannedTypes v ↔ type ∈ (typedFields v).map FieldDecl.type := by
  have typed {f : FieldDecl} : (!f.type.isEmpty) = true ↔ f.type ≠ "" := by
    simp
  rw [List.mem_map]
  constructor
  · rintro ⟨before, f, after, split, rfl, given⟩
    refine ⟨f, ?_, rfl⟩
    rw [typedFields, split, ← List.singleton_append, ← List.append_assoc,
      List.takeWhile_append_of_pos fun g member => typed.mpr (given g member)]
    simp
  · rintro ⟨f, member, rfl⟩
    obtain ⟨before, rest, split⟩ := List.append_of_mem member
    refine ⟨before, f, rest ++ v.fields.dropWhile (!·.type.isEmpty), ?_, rfl, fun g earlier => ?_⟩
    · rw [← List.cons_append, ← List.append_assoc, ← split, typedFields,
        List.takeWhile_append_dropWhile]
    · have inside : g ∈ typedFields v := by
        rw [split, ← List.singleton_append, ← List.append_assoc]
        exact List.mem_append_left _ earlier
      exact typed.mp (List.mem_takeWhile_imp (p := fun f : FieldDecl => !f.type.isEmpty) inside)

theorem isAbstraction_iff :
    isAbstraction type = true ↔ isLibrary type = false ∧ ¬ Bracketed type.toList := by
  rw [isAbstraction, Bool.and_eq_true, Bool.not_eq_true', ← isSome_splitGeneric_iff,
    Bool.not_eq_true, Option.isSome_eq_false_iff, and_comm]

theorem encard_countedTypes (v : ClassView) :
    (countedTypes v).encard = (abstractions v).length := by
  rw [abstractions, ← encard_mem_eq]
  refine congrArg Set.encard (Set.ext fun type => ?_)
  show type ∈ scannedTypes v ∧ _ ↔ type ∈ List.filter _ _
  rw [mem_scannedTypes_iff, List.mem_filter, isAbstraction_iff]

/-- A text of the shape is a generic type, or no type at all. -/
theorem isGeneric_iff_of_bracketed (bracketed : Bracketed type.toList) :
    IsGeneric type ↔ IsType type := by
  rw [isGeneric_iff_isType]
  exact and_iff_left bracketed.less_mem

theorem countedTypes_union_misreadTypes (v : ClassView) :
    countedTypes v ∪ misreadTypes v = dataAbstractions v ∪ overlookedTypes v := by
  ext type
  constructor
  · rintro (⟨scanned, library, shapeless⟩ | ⟨scanned, noType, bracketed⟩)
    · by_cases generic : IsGeneric type
      · exact .inr ⟨scanned, generic, shapeless⟩
      · exact .inl ⟨scanned, library, generic⟩
    · rw [← isGeneric_iff_of_bracketed bracketed] at noType
      exact .inl ⟨scanned, not_isLibrary_of_less bracketed.less_mem, noType⟩
  · rintro (⟨scanned, library, notGeneric⟩ | ⟨scanned, generic, shapeless⟩)
    · by_cases bracketed : Bracketed type.toList
      · rw [isGeneric_iff_of_bracketed bracketed] at notGeneric
        exact .inr ⟨scanned, notGeneric, bracketed⟩
      · exact .inl ⟨scanned, library, bracketed⟩
    · have library := not_isLibrary_of_less (isGeneric_iff_isType.mp generic).2
      exact .inl ⟨scanned, library, shapeless⟩

theorem encard_balance (v : ClassView) :
    ((abstractions v).length : ℕ∞) + (misreadTypes v).encard =
      (dataAbstractions v).encard + (overlookedTypes v).encard := by
  have apart : Disjoint (countedTypes v) (misreadTypes v) :=
    Set.disjoint_left.mpr fun _ counted misread => counted.2.2 misread.2.2
  have apart' : Disjoint (dataAbstractions v) (overlookedTypes v) :=
    Set.disjoint_left.mpr fun _ right overlooked => right.2.2 overlooked.2.1
  rw [← encard_countedTypes, ← Set.encard_union_eq apart, countedTypes_union_misreadTypes,
    Set.encard_union_eq apart']

/-- The abstractions that are counted, and the texts that only look like generic types, are as many
as the abstractions and the generic types that do not look like ones. A declared type is overlooked
if it has arguments and is an array, starts with a qualifier or ends in a member without arguments,
its first name is no word, or it has a blank in front of the first bracket or a line break inside.
So for fields of declared types the count is right exactly if no type is overlooked. -/
theorem abstractions_counted (v : ClassView) :
    ((abstractions v).length : ℕ∞) + (misreadTypes v).encard =
      (dataAbstractions v).encard + (overlookedTypes v).encard ∧
    (∀ (type : String) (e : DeclaredType), Spelled e.lexemes type.toList →
      (type ∈ overlookedTypes v ↔ type ∈ scannedTypes v ∧ e.base.isGeneric = true ∧
        ¬ Recognizable e type.toList)) ∧
    ((∀ type ∈ scannedTypes v, IsType type) →
      ((abstractions v).length = (dataAbstractions v).encard ↔ overlookedTypes v = ∅)) := by
  refine ⟨encard_balance v, fun type e spelled => ?_, fun declared => ?_⟩
  · rw [← spelled.bracketed_iff, spelled.isGeneric_iff]
    refine and_congr_right fun _ => and_congr_left fun _ => ?_
    rw [isGeneric_iff_isType]
    exact and_iff_right ⟨e, spelled⟩
  · have noneMisread : misreadTypes v = ∅ :=
      Set.eq_empty_of_forall_notMem fun type misread => misread.2.1 (declared type misread.1)
    have balance := encard_balance v
    rw [noneMisread, Set.encard_empty, add_zero] at balance
    constructor
    · intro right
      have finite : (dataAbstractions v).encard ≠ ⊤ := right ▸ ENat.natCast_ne_top _
      have same : (dataAbstractions v).encard + 0 =
          (dataAbstractions v).encard + (overlookedTypes v).encard := by
        rw [add_zero, ← balance, right]
      have none := ENat.add_right_injective_of_ne_top finite same
      exact Set.encard_eq_zero.mp none.symm
    · intro none
      rw [balance, none, Set.encard_empty, add_zero]

/-! ## Shelves -/

/-- A class with a field of each of some types. -/
def shelfOf (types : List String) : ClassView where
  classes := [{ name := "Shelf" }]
  fields := types.map fun type => { name := "books", type := type }

theorem mem_of_mem_scannedTypes {types : List String}
    (scanned : type ∈ scannedTypes (shelfOf types)) : type ∈ types := by
  obtain ⟨f, member, rfl⟩ := List.mem_map.mp (mem_scannedTypes_iff.mp scanned)
  obtain ⟨type, listed, rfl⟩ := List.mem_map.mp (List.takeWhile_subset _ member)
  exact listed

/-- Books. -/
def bookType : ClassType := .outermost { chars := ['B', 'o', 'o', 'k'] } []

/-- Lists of books. -/
def bookListType : ClassType :=
  .outermost { chars := ['L', 'i', 's', 't'] } [.type none bookType 0]

/-- Lists of books by the full name. -/
def qualifiedListType : ClassType :=
  .member (.member (.outermost { chars := ['j', 'a', 'v', 'a'] } [])
    { chars := ['u', 't', 'i', 'l'] } []) { chars := ['L', 'i', 's', 't'] } [.type none bookType 0]

theorem isGeneric_qualifiedList : IsGeneric "java.util.List<Book>" :=
  ⟨⟨qualifiedListType, 0⟩, rfl, .of_isChain (by decide)⟩

theorem isGeneric_bookListArray : IsGeneric "List<Book>[]" :=
  ⟨⟨bookListType, 1⟩, rfl, .of_isChain (by decide)⟩

/-- A generic type that is overlooked counts, and should not. -/
theorem shelfOf_overlooked (generic : IsGeneric type) (shapeless : splitGeneric type = none) :
    dataAbstractions (shelfOf [type]) = ∅ ∧ (abstractions (shelfOf [type])).length = 1 := by
  have bracket := (isGeneric_iff_isType.mp generic).2
  have named : type ≠ "" := by
    rintro rfl
    cases bracket
  refine ⟨Set.eq_empty_of_forall_notMem fun other counts => counts.2.2 ?_, ?_⟩
  · rw [List.mem_singleton.mp (mem_of_mem_scannedTypes counts.1)]
    exact generic
  · have counts : isAbstraction type = true := by
      rw [isAbstraction, shapeless, not_isLibrary_of_less bracket]
      rfl
    simp [abstractions, typedFields, shelfOf, named, counts, List.eraseDups_cons]

/-- Nothing should count on a shelf with lists of books by the full name, or with arrays of such
lists, and each counts. -/
theorem generic_shelves_counted :
    dataAbstractions (shelfOf ["java.util.List<Book>"]) = ∅ ∧
    (abstractions (shelfOf ["java.util.List<Book>"])).length = 1 ∧
    dataAbstractions (shelfOf ["List<Book>[]"]) = ∅ ∧
    (abstractions (shelfOf ["List<Book>[]"])).length = 1 := by
  obtain ⟨none, one⟩ := shelfOf_overlooked isGeneric_qualifiedList (by decide +kernel)
  obtain ⟨none', one'⟩ := shelfOf_overlooked isGeneric_bookListArray (by decide +kernel)
  exact ⟨none, one, none', one'⟩

/-- Lists of books, books and numbers. Behind the field without a type nothing is looked at. -/
def mixedShelf : ClassView :=
  shelfOf ["List<Book>", "Book", "Book", "int", "", "java.util.List<Book>"]

/-- The mixed shelf is counted right. -/
theorem mixedShelf_counted :
    (∀ type ∈ scannedTypes mixedShelf, IsType type) ∧ overlookedTypes mixedShelf = ∅ ∧
    (abstractions mixedShelf).length = (dataAbstractions mixedShelf).encard := by
  have listed : (typedFields mixedShelf).map FieldDecl.type =
      ["List<Book>", "Book", "Book", "int"] := rfl
  have books : IsType "Book" := ⟨⟨bookType, 0⟩, .of_isChain (by decide)⟩
  have numbers : IsType "int" :=
    ⟨⟨.outermost { chars := ['i', 'n', 't'] } [], 0⟩, .of_isChain (by decide)⟩
  have lists : IsType "List<Book>" := ⟨⟨bookListType, 0⟩, .of_isChain (by decide)⟩
  have declared : ∀ type ∈ scannedTypes mixedShelf, IsType type := by
    intro type scanned
    rw [mem_scannedTypes_iff, listed] at scanned
    simp only [List.mem_cons, List.not_mem_nil, or_false] at scanned
    rcases scanned with rfl | rfl | rfl | rfl
    · exact lists
    · exact books
    · exact books
    · exact numbers
  have none : overlookedTypes mixedShelf = ∅ := by
    refine Set.eq_empty_of_forall_notMem ?_
    rintro type ⟨scanned, generic, shapeless⟩
    rw [mem_scannedTypes_iff, listed] at scanned
    have bracket := (isGeneric_iff_isType.mp generic).2
    have shaped : Bracketed "List<Book>".toList := isSome_splitGeneric_iff.mp (by decide +kernel)
    simp only [List.mem_cons, List.not_mem_nil, or_false] at scanned
    rcases scanned with rfl | rfl | rfl | rfl
    · exact shapeless shaped
    · exact absurd bracket (by decide +kernel)
    · exact absurd bracket (by decide +kernel)
    · exact absurd bracket (by decide +kernel)
  obtain ⟨_, _, right⟩ := abstractions_counted mixedShelf
  exact ⟨declared, none, (right declared).mpr none⟩

end DesignGauge.Measure
